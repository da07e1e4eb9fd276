import Mathlib.Tactic
import SpaGateway.Proofs.Session.Timing

/-!
# When the peer is reported as unreachable

A session counts the handshakes that failed in a row.  What it should count is said by the history
alone: `Session.failures` is the number of handshakes that expired since the peer last answered one,
or since the session was made.  `Session.Move.counts` says that every call keeps the session's
counter at this number.

`Session.unreachable_reported_iff` reads off what is told when a session expires.  Only the failure
of a handshake can make the peer unreachable, and it does so whenever the number of failures in a
row is a multiple of the threshold.
-/

namespace SpaGateway

namespace Session

/-! ## Failures in a row -/

/-- A handshake expires. -/
def failsHandshake (step : Step Session Event) : Bool :=
  decide (.event (.expired .awaitingHello) ∈ step.before.outputs step.action)

/-- Number of handshakes that expired since the last authorization, or since the beginning. -/
def failures (history : List (Step Session Event)) : Nat :=
  (history.reverse.takeWhile fun step => !isWelcome step).countP failsHandshake

lemma failures_concat (history : List (Step Session Event)) (step : Step Session Event) :
    failures (history ++ [step]) =
      if isWelcome step then 0 else failures history + if failsHandshake step then 1 else 0 := by
  cases hwelcome : isWelcome step <;> simp [failures, hwelcome, List.countP_cons]

variable {s s' : Session} {now : Nat} {call : SessionCall} {outputs : List SessionOutput}
  {history : List (Step Session Event)}

/-- What is told when a session expires, and what it is called then. -/
lemma Move.of_expired_mem (hmove : s.Move now call s' outputs) {phase : SessionPhase}
    (hmem : .event (.expired phase) ∈ outputs) :
    s.phase = phase ∧ s.IsOverdue now ∧ ∃ fresh, call = .poll fresh ∧ s'.key = s.nextKey fresh ∧
      outputs = .event (.expired phase) ::
        (if phase = .awaitingHello then s.failedAgain.unreachableReport else []) ++
          [.transmit (.hello s'.key)] := by
  cases hmove with
  | ignore | close => cases hmem
  | start | welcome | reject | ping => simp at hmem
  | @accept _ _ content => cases content <;> simp [answer] at hmem
  | @timeOut fresh hphase hdue =>
    have hreport : .event (.expired phase) ∉ s.failedAgain.unreachableReport := by
      unfold unreachableReport
      split <;> simp
    obtain rfl : phase = .awaitingHello := by simpa [hreport] using hmem
    exact ⟨hphase, .inl ⟨hphase, hdue⟩, fresh, rfl, rfl, by rw [if_pos rfl]; rfl⟩
  | @fallSilent fresh hphase hdue =>
    obtain rfl : phase = .authorized := by simpa using hmem
    exact ⟨hphase, .inr ⟨hphase, hdue⟩, fresh, rfl, rfl, rfl⟩

lemma isWelcome_eq_false (h : s.welcome? call = none) : isWelcome ⟨s, ⟨now, call⟩⟩ = false := by
  rw [isWelcome, h]
  rfl

lemma failsHandshake_eq (houtputs : s.outputs ⟨now, call⟩ = outputs) :
    failsHandshake ⟨s, ⟨now, call⟩⟩ = decide (.event (.expired .awaitingHello) ∈ outputs) := by
  rw [failsHandshake, houtputs]

/-- **Every call keeps the counter at the number of failures in a row.** -/
theorem Move.counts (hmove : s.Move now call s' outputs)
    (houtputs : s.outputs ⟨now, call⟩ = outputs) (h : s.failedHandshakes = failures history) :
    s'.failedHandshakes = failures (history ++ [⟨s, ⟨now, call⟩⟩]) := by
  rw [failures_concat, failsHandshake_eq houtputs, ← h]
  cases hmove with
  | ignore hignores => simp [isWelcome_eq_false (welcome?_eq_none_of_ignores hignores)]
  | reject _ hpayload => simp [isWelcome_eq_false (welcome?_hello_eq_none hpayload)]
  | @welcome peer name hphase hpeer =>
    have hwelcome : s.welcome? _ = some (peer, name) :=
      welcome?_eq_some_iff.2 ⟨hphase, hpeer, rfl⟩
    simp [isWelcome, hwelcome, welcomed]
  | @accept _ _ content => cases content <;> simp [isWelcome, welcome?, answer]
  | start | close | ping => simp [isWelcome, welcome?, introduced, Session.close]
  | timeOut => simp [isWelcome, welcome?, introduced, failedAgain]
  | fallSilent => simp [isWelcome, welcome?, introduced]

/-- Over every run the counter is the number of failures in a row. -/
theorem counts_run (settings : SessionSettings) (key : Octets) (pinned : Bool) (made : Nat)
    (past : List Event) :
    let created := create settings key pinned made
    (past.foldl after created).failedHandshakes = failures (created.history past) := by
  intro created
  induction past using List.reverseRecOn with
  | nil => rfl
  | append_singleton past event ih =>
    rw [history_concat, List.foldl_append]
    exact (move_perform event.call).counts rfl ih

lemma Move.pinned_eq (hmove : s.Move now call s' outputs) : s'.pinned = s.pinned := by
  cases hmove <;> rfl

lemma pinned_run (created : Session) (past : List Event) :
    (past.foldl after created).pinned = created.pinned :=
  keeps_foldl (P := fun s : Session => s.pinned = created.pinned)
    (fun _ event hs => (move_perform event.call).pinned_eq.trans hs) rfl past

/-! ## What is told of failures -/

/-- A session that is overdue expires when time passes. -/
lemma Move.expired_mem {fresh : Octets} (hmove : s.Move now (.poll fresh) s' outputs)
    (h : s.IsOverdue now) : .event (.expired s.phase) ∈ outputs :=
  (hmove.expires_iff.2 h).1

/-- An expiry counts if it is that of a handshake. -/
lemma Move.failures_of_expired_mem (hmove : s.Move now call s' outputs)
    (houtputs : s.outputs ⟨now, call⟩ = outputs) {phase : SessionPhase}
    (hmem : .event (.expired phase) ∈ outputs) :
    failures (history ++ [⟨s, ⟨now, call⟩⟩]) =
      failures history + if phase = .awaitingHello then 1 else 0 := by
  obtain ⟨-, -, fresh, rfl, -, htold⟩ := hmove.of_expired_mem hmem
  rw [failures_concat, isWelcome_eq_false rfl, failsHandshake_eq (houtputs.trans htold)]
  by_cases hphase : phase = .awaitingHello <;> simp [hphase, eq_comm]

/-- When a handshake fails, the peer is reported at every multiple of the threshold. -/
lemma Move.outputs_of_expired_mem (hmove : s.Move now call s' outputs)
    (hmem : .event (.expired .awaitingHello) ∈ outputs) :
    outputs =
      if 0 < s.settings.unreachableAfter ∧
        s.settings.unreachableAfter ∣ s.failedHandshakes + 1 then
        [.event (.expired .awaitingHello), .event (.unreachable (s.failedHandshakes + 1)),
          .transmit (.hello s'.key)]
      else [.event (.expired .awaitingHello), .transmit (.hello s'.key)] := by
  obtain ⟨-, -, fresh, -, -, htold⟩ := hmove.of_expired_mem hmem
  rw [htold, if_pos rfl]
  simp only [unreachableReport, failedAgain, Nat.dvd_iff_mod_eq_zero]
  split <;> simp [*]

/-- Only together with the failure of a handshake is the peer reported as unreachable. -/
lemma Move.expired_mem_of_unreachable_mem (hmove : s.Move now call s' outputs) {attempts : Nat}
    (hmem : .event (.unreachable attempts) ∈ outputs) :
    .event (.expired .awaitingHello) ∈ outputs := by
  cases hmove with
  | ignore | close => cases hmem
  | start | welcome | reject | fallSilent | ping => simp at hmem
  | @accept _ _ content => cases content <;> simp [answer] at hmem
  | timeOut => simp

/-- What leaves the number of failures alone: to be started, a hello that names nobody, and a poll
that finds nothing to do. -/
def IsNoAttempt (s : Session) (event : Event) : Prop :=
  match event.call with
  | .start => True
  | .handle (.hello payload) => helloDelimiter ∉ payload
  | .poll _ => s.outputs event = []
  | _ => False

lemma failures_of_isNoAttempt {event : Event} (h : s.IsNoAttempt event) :
    failures (history ++ [⟨s, event⟩]) = failures history := by
  obtain ⟨now, call⟩ := event
  have hmove : s.Move now call (s.after ⟨now, call⟩) (s.outputs ⟨now, call⟩) := move_perform call
  have hcalm (hwelcome : s.welcome? call = none)
      (hmem : .event (.expired .awaitingHello) ∉ s.outputs ⟨now, call⟩) :
      failures (history ++ [⟨s, ⟨now, call⟩⟩]) = failures history := by
    rw [failures_concat, isWelcome_eq_false hwelcome, failsHandshake_eq rfl]
    simp [hmem]
  rcases call with _ | (payload | _) | _ | _ | _
  case start =>
    refine hcalm rfl fun hmem => ?_
    obtain ⟨-, -, fresh, hcall, -⟩ := hmove.of_expired_mem hmem
    cases hcall
  case handle.hello =>
    refine hcalm (welcome?_hello_eq_none h) fun hmem => ?_
    obtain ⟨-, -, fresh, hcall, -⟩ := hmove.of_expired_mem hmem
    cases hcall
  case poll =>
    have hnone : s.outputs _ = [] := h
    exact hcalm rfl (by simp [hnone])
  all_goals exact h.elim

/-- **When the peer is reported as unreachable.**  In every run, whatever the times, a call that
tells of an expiry is a poll of a session that is overdue, and the session goes on under the key
that its new hello carries, the old one if that is pinned.  If a handshake failed, then the number
of failures in a row is one more, and the peer is reported as unreachable exactly if the threshold
is positive and divides that number.  If the peer fell silent, then nothing is counted and nothing
else is told.  No other call reports the peer, and to be started again, malformed hellos and polls
that find nothing to do leave the number alone. -/
theorem unreachable_reported_iff (settings : SessionSettings) (key : Octets) (pinned : Bool)
    (made : Nat) (past : List Event) (event : Event) :
    let created := create settings key pinned made
    let s := past.foldl after created
    let s' := s.after event
    let failed := failures (created.history past)
    let attempts := failures (created.history (past ++ [event]))
    (∀ phase, .event (.expired phase) ∈ s.outputs event ↔
      s.phase = phase ∧ s.IsOverdue event.now ∧ ∃ fresh, event.call = .poll fresh) ∧
    (∀ fresh, event.call = .poll fresh → s.IsOverdue event.now →
      s'.key = if pinned then s.key else fresh) ∧
    (.event (.expired .awaitingHello) ∈ s.outputs event →
      attempts = failed + 1 ∧ s.outputs event =
        if 0 < settings.unreachableAfter ∧ settings.unreachableAfter ∣ attempts then
          [.event (.expired .awaitingHello), .event (.unreachable attempts),
            .transmit (.hello s'.key)]
        else [.event (.expired .awaitingHello), .transmit (.hello s'.key)]) ∧
    (.event (.expired .authorized) ∈ s.outputs event →
      attempts = failed ∧
        s.outputs event = [.event (.expired .authorized), .transmit (.hello s'.key)]) ∧
    (∀ number, .event (.unreachable number) ∈ s.outputs event →
      .event (.expired .awaitingHello) ∈ s.outputs event) ∧
    (s.IsNoAttempt event → attempts = failed) := by
  intro created s s' failed attempts
  obtain ⟨now, call⟩ := event
  have hmove : s.Move now call s' (s.outputs ⟨now, call⟩) := move_perform call
  have hsettings : s.settings = settings := settings_run created past
  have hpinned : s.pinned = pinned := pinned_run created past
  have hcounter : s.failedHandshakes = failed := counts_run settings key pinned made past
  have hattempts : attempts = failures (created.history past ++ [⟨s, ⟨now, call⟩⟩]) := by
    rw [← history_concat]
  refine ⟨fun phase => ⟨fun hmem => ?_, ?_⟩, ?_, fun hmem => ?_, fun hmem => ?_, fun number =>
    hmove.expired_mem_of_unreachable_mem, fun hevent => hattempts.trans
      (failures_of_isNoAttempt hevent)⟩
  · obtain ⟨hphase, hoverdue, fresh, hcall, -⟩ := hmove.of_expired_mem hmem
    exact ⟨hphase, hoverdue, fresh, hcall⟩
  · rintro ⟨rfl, hoverdue, fresh, rfl⟩
    exact hmove.expired_mem hoverdue
  · rintro fresh rfl hoverdue
    obtain ⟨-, -, _, hcall, hkey, -⟩ := hmove.of_expired_mem (hmove.expired_mem hoverdue)
    obtain rfl := SessionCall.poll.inj hcall
    rw [hkey, nextKey, hpinned]
  · have hnumber : attempts = failed + 1 := hattempts.trans (hmove.failures_of_expired_mem rfl hmem)
    have houtputs := hmove.outputs_of_expired_mem hmem
    rw [hsettings, hcounter, ← hnumber] at houtputs
    exact ⟨hnumber, houtputs⟩
  · obtain ⟨-, -, fresh, -, -, houtputs⟩ := hmove.of_expired_mem hmem
    exact ⟨hattempts.trans (hmove.failures_of_expired_mem rfl hmem), houtputs⟩

/-- Two handshakes in a row get no answer, and the threshold is two. -/
theorem unreachable_reported_after_two_failures :
    let created := create { unreachableAfter := 2 } [0x61] false 0
    let past : List Event := [⟨0, .start⟩, ⟨10000, .poll [0x62]⟩]
    let event : Event := ⟨20000, .poll [0x63]⟩
    let s := past.foldl after created
    s.IsOverdue 20000 ∧ failures (created.history (past ++ [event])) = 2 ∧ s.outputs event =
      [.event (.expired .awaitingHello), .event (.unreachable 2), .transmit (.hello [0x63])] := by
  intro created past event s
  have hoverdue : s.IsOverdue 20000 := .inl (by decide)
  have hcount : failures (created.history (past ++ [event])) = 2 := by decide
  obtain ⟨hexpired, hkey, hreport, -⟩ :=
    unreachable_reported_iff { unreachableAfter := 2 } [0x61] false 0 past event
  obtain ⟨-, houtputs⟩ := hreport ((hexpired .awaitingHello).2 ⟨rfl, hoverdue, [0x63], rfl⟩)
  refine ⟨hoverdue, hcount, houtputs.trans ?_⟩
  rw [hcount, hkey [0x63] rfl hoverdue]
  rfl

end Session

end SpaGateway
