import Mathlib.Tactic
import SpaGateway.Proofs.Session.Deadline
import SpaGateway.Proofs.Session.Timing

/-!
# When a session has something to do, and when it does it

The owner of a session sleeps until its next deadline and then lets time pass.  The two are computed
differently.  A deadline is the sum of a time and a timeout, and the earlier of two such sums
counts; letting time pass compares a timeout with the time gone by, which is never negative, and
looks at one timer after the other.  `Session.Move.eq_of_lt` and `Session.Move.outputs_ne_nil` say
that they decide alike, also when the clock has gone back and when both timers are due together.

A sum can lie beyond the end of the clock, where a difference cannot.  Neither of the two comes to a
result when it needs such a sum (`Session.deadlineInReach?`, `Session.pollInReach?`), and
`Session.poll_agrees_iff` says for which sessions that matters.
-/

namespace SpaGateway

namespace Session

variable {s s' : Session} {now : Nat} {outputs : List SessionOutput} {fresh : Octets}

/-! ## The next deadline -/

lemma nextDeadline?_eq_some_iff {time : Nat} :
    s.nextDeadline? = some time ↔ time ∈ s.deadlines ∧ ∀ other ∈ s.deadlines, time ≤ other :=
  List.min?_eq_some_iff

/-- Nothing is due before the next deadline. -/
lemma lt_of_lt_nextDeadline? (h : ∀ time ∈ s.nextDeadline?, now < time) :
    ∀ time ∈ s.deadlines, now < time := by
  intro time htime
  cases hnext : s.nextDeadline? with
  | none => exact absurd (List.min?_eq_none_iff.1 hnext) (List.ne_nil_of_mem htime)
  | some next => exact (h next hnext).trans_le ((nextDeadline?_eq_some_iff.1 hnext).2 time htime)

/-- Only a session that waits has something to do. -/
lemma isWaiting_of_mem_deadlines {time : Nat} (h : time ∈ s.deadlines) : s.IsWaiting := by
  cases hphase : s.phase with
  | awaitingHello => exact .inl hphase
  | authorized => exact .inr hphase
  | unauthenticated | expired | closed =>
    rw [deadlines, hphase] at h
    cases h

lemma mem_deadlines_of_pingDue? {due : Nat} (hphase : s.phase = .authorized)
    (h : due ∈ s.pingDue?) : due ∈ s.deadlines := by
  rw [deadlines_of_authorized hphase]
  exact List.mem_cons_of_mem _ (Option.mem_toList.2 h)

/-! ## Letting time pass -/

/-- **If nothing is due, then nothing happens.** -/
theorem Move.eq_of_lt (hmove : s.Move now (.poll fresh) s' outputs)
    (hpositive : s.settings.IsPositive) (h : ∀ time ∈ s.deadlines, now < time) :
    s' = s ∧ outputs = [] := by
  cases hmove with
  | ignore => exact ⟨rfl, rfl⟩
  | timeOut hphase hdue =>
    rw [deadlines_of_awaitingHello hphase] at h
    have hlater := h _ (List.mem_singleton_self _)
    have hpos := hpositive.handshakeTimeout_pos
    omega
  | fallSilent hphase hdue =>
    rw [deadlines_of_authorized hphase] at h
    have hlater := h _ List.mem_cons_self
    have hpos := hpositive.udpTimeout_pos
    rw [idle] at hdue
    omega
  | ping hphase _ hdue =>
    obtain ⟨due, hping, hdue⟩ := hdue
    exact absurd hdue (h due (mem_deadlines_of_pingDue? hphase hping)).not_ge

/-- **If something is due, then something happens.** -/
theorem Move.outputs_ne_nil (hmove : s.Move now (.poll fresh) s' outputs)
    (hpositive : s.settings.IsPositive) {time : Nat} (htime : time ∈ s.deadlines)
    (hdue : time ≤ now) : outputs ≠ [] := by
  have hlater (hmem : time ∈ s'.deadlines) : now < time := hmove.lt_of_mem_deadlines hpositive hmem
  cases hmove with
  | ignore => exact absurd hdue (hlater htime).not_ge
  | timeOut | fallSilent | ping => simp

/-- Then the session goes on waiting, and for a later time. -/
lemma Move.exists_nextDeadline? (hmove : s.Move now (.poll fresh) s' outputs)
    (hpositive : s.settings.IsPositive) (hwaiting : s.IsWaiting) :
    ∃ next, s'.nextDeadline? = some next ∧ now < next := by
  cases hnext : s'.nextDeadline? with
  | none =>
    have hstill := hmove.isWaiting nofun hwaiting
    exact absurd (List.min?_eq_none_iff.1 hnext) hstill.deadlines_ne_nil
  | some next =>
    have hmem := (nextDeadline?_eq_some_iff.1 hnext).1
    exact ⟨next, rfl, hmove.lt_of_mem_deadlines hpositive hmem⟩

/-! ## The end of the clock -/

/-- Whether the clock reaches all times that a session waits for. -/
def IsInReach (s : Session) : Prop := ∀ time ∈ s.deadlines, time < clockEnd

lemma deadlineInReach?_eq_some_iff {due? : Option Nat} :
    s.deadlineInReach? = some due? ↔ s.IsInReach ∧ s.nextDeadline? = due? := by
  simp [deadlineInReach?, IsInReach]

lemma IsInReach.pollInReach?_eq (h : s.IsInReach) (fresh : Octets) (now : Nat) :
    s.pollInReach? fresh now = some (s.poll fresh now) :=
  pollInReach?_eq_some_iff.2
    ⟨fun hphase _ due hping => h due (mem_deadlines_of_pingDue? hphase hping), rfl⟩

/-! ## Agreement -/

/-- The next deadline and letting time pass agree at a time.  There is an answer to what is next.
If that is later or nothing, then nothing happens, and the session stays the same.  If it is due,
then something happens, and what is next after that is later. -/
structure Agrees (s : Session) (fresh : Octets) (now : Nat) : Prop where
  answers : s.deadlineInReach?.isSome
  nothing : ∀ due? ∈ s.deadlineInReach?, (∀ time ∈ due?, now < time) →
    s.pollInReach? fresh now = some (s, [])
  something : ∀ time ≤ now, s.deadlineInReach? = some (some time) →
    ∃ s' outputs next, s.pollInReach? fresh now = some (s', outputs) ∧ outputs ≠ [] ∧
      s'.deadlineInReach? = some (some next) ∧ now < next

lemma agrees_iff (hpositive : s.settings.IsPositive) :
    s.Agrees fresh now ↔ s.IsInReach ∧ (s.poll fresh now).1.IsInReach := by
  have hmove : s.Move now (.poll fresh) _ _ := move_poll fresh
  constructor
  · intro h
    obtain ⟨due?, hdue?⟩ := Option.isSome_iff_exists.1 h.answers
    obtain ⟨hreach, hnext⟩ := deadlineInReach?_eq_some_iff.1 hdue?
    refine ⟨hreach, ?_⟩
    by_cases hlater : ∀ time ∈ s.nextDeadline?, now < time
    · rwa [(hmove.eq_of_lt hpositive (lt_of_lt_nextDeadline? hlater)).1]
    · push Not at hlater
      obtain ⟨time, htime, hdue⟩ := hlater
      rw [← hnext, Option.mem_def.1 htime] at hdue?
      obtain ⟨s', outputs, next, hpoll, -, hafter, -⟩ := h.something time hdue hdue?
      rw [(pollInReach?_eq_some_iff.1 hpoll).2]
      exact (deadlineInReach?_eq_some_iff.1 hafter).1
  · rintro ⟨hreach, hafter⟩
    refine ⟨?_, fun due? hdue? hlater => ?_, fun time hdue htime => ?_⟩
    · rw [deadlineInReach?_eq_some_iff.2 ⟨hreach, rfl⟩]
      rfl
    · obtain ⟨-, rfl⟩ := deadlineInReach?_eq_some_iff.1 hdue?
      obtain ⟨hsame, hnothing⟩ := hmove.eq_of_lt hpositive (lt_of_lt_nextDeadline? hlater)
      rw [hreach.pollInReach?_eq, ← Prod.mk.eta (p := s.poll fresh now), hsame, hnothing]
    · obtain ⟨-, hnext⟩ := deadlineInReach?_eq_some_iff.1 htime
      have hmem := (nextDeadline?_eq_some_iff.1 hnext).1
      obtain ⟨next, hnext', hlater⟩ :=
        hmove.exists_nextDeadline? hpositive (isWaiting_of_mem_deadlines hmem)
      exact ⟨_, _, next, hreach.pollInReach?_eq fresh now, hmove.outputs_ne_nil hpositive hmem hdue,
        deadlineInReach?_eq_some_iff.2 ⟨hafter, hnext'⟩, hlater⟩

/-- **A session has something to do exactly when its next deadline has come.**  Take any settings
with which no wait is over as soon as it begins, and any run, also with times that go back.  If the
next deadline is later than now, or there is none, then letting time pass changes nothing and comes
to nothing.  If it has come, then something happens, and there is a next deadline then, which is
later than now.

The deadlines are added to times without a bound, so the clock may not reach them.  What is next and
letting time pass come to results, and then agree, exactly if the clock reaches the deadlines of the
session before and after. -/
theorem poll_agrees_iff (settings : SessionSettings) (hpositive : settings.IsPositive)
    (key : Octets) (pinned : Bool) (made : Nat) (past : List Event) (fresh : Octets) (now : Nat) :
    let s := past.foldl after (create settings key pinned made)
    let s' := (s.poll fresh now).1
    ((∀ time ∈ s.nextDeadline?, now < time) → s.poll fresh now = (s, [])) ∧
    (∀ time ∈ s.nextDeadline?, time ≤ now → (s.poll fresh now).2 ≠ [] ∧
      ∃ next, s'.nextDeadline? = some next ∧ now < next) ∧
    (s.Agrees fresh now ↔
      (∀ time ∈ s.deadlines, time < clockEnd) ∧
        ∀ time ∈ s'.deadlines, time < clockEnd) := by
  intro s s'
  have hmove : s.Move now (.poll fresh) s' (s.poll fresh now).2 := move_poll fresh
  have hsettings : s.settings.IsPositive := by
    rwa [show s.settings = settings from settings_run _ past]
  refine ⟨fun hlater => ?_, fun time htime hdue => ?_, agrees_iff hsettings⟩
  · obtain ⟨hsame, hnothing⟩ := hmove.eq_of_lt hsettings (lt_of_lt_nextDeadline? hlater)
    rw [← Prod.mk.eta (p := s.poll fresh now), hnothing]
    exact congrArg (·, []) hsame
  · have hmem := (nextDeadline?_eq_some_iff.1 htime).1
    exact ⟨hmove.outputs_ne_nil hsettings hmem hdue,
      hmove.exists_nextDeadline? hsettings (isWaiting_of_mem_deadlines hmem)⟩

/-- Both timers of a session are due, which was welcomed by a clock that had gone back. -/
theorem poll_agrees_when_both_are_due :
    let past : List Event := [⟨5, .start⟩, ⟨3, .handle (.hello [0x61, 0x7c, 0x62])⟩]
    let s := past.foldl after (create {} [0x6b] false 5)
    ({} : SessionSettings).IsPositive ∧ s.nextDeadline? = some 3003 ∧ s.Agrees [0x6c] 300003 ∧
      ∃ next, (s.poll [0x6c] 300003).1.nextDeadline? = some next ∧ 300003 < next := by
  intro past s
  have hpositive : ({} : SessionSettings).IsPositive := ⟨by decide, by decide, by decide⟩
  have hnext : s.nextDeadline? = some 3003 := by decide
  obtain ⟨-, hdue, hagrees⟩ := poll_agrees_iff {} hpositive [0x6b] false 5 past [0x6c] 300003
  exact ⟨hpositive, hnext, hagrees.2 ⟨by decide +kernel, by decide +kernel⟩,
    (hdue 3003 hnext (by decide)).2⟩

/-- With an endless timeout of the silence nothing is told to be next after the welcome, although a
ping is due three seconds later.  With an endless timeout of the handshake the same comes of the
expiry, which was next. -/
theorem not_agrees_of_endless_timeout :
    let past : List Event := [⟨0, .start⟩, ⟨0, .handle (.hello [0x61, 0x7c, 0x62])⟩]
    let endless : Nat := 18446744073709551615 * GatewayConfig.second
    let silent := past.foldl after (create { udpTimeout := endless } [0x6b] false 0)
    let slow := past.foldl after (create { handshakeTimeout := endless } [0x6b] false 0)
    silent.settings.IsPositive ∧ silent.deadlineInReach? = none ∧
      (∃ s', silent.pollInReach? [0x6c] 3000 =
        some (s', [.transmit (.authorized (some [0x6b]) (some [0x61]) .ping)])) ∧
      ¬ silent.Agrees [0x6c] 3000 ∧
    slow.settings.IsPositive ∧ slow.deadlineInReach? = some (some 3000) ∧
      (slow.poll [0x6c] 300000).1.deadlineInReach? = none ∧ ¬ slow.Agrees [0x6c] 300000 := by
  intro past endless silent slow
  have hsilent : silent.deadlineInReach? = none := by decide +kernel
  have hslow : (slow.poll [0x6c] 300000).1.deadlineInReach? = none := by decide +kernel
  have hpositive : silent.settings.IsPositive ∧ slow.settings.IsPositive :=
    ⟨⟨by decide +kernel, by decide, by decide⟩, ⟨by decide, by decide +kernel, by decide⟩⟩
  refine ⟨hpositive.1, hsilent, ⟨{ silent with lastPing := some 3000 }, by decide +kernel⟩,
    fun h => ?_, hpositive.2, by decide +kernel, hslow, fun h => ?_⟩
  · simpa [hsilent] using h.answers
  · obtain ⟨-, hafter⟩ := (agrees_iff hpositive.2).1 h
    rw [deadlineInReach?_eq_some_iff.2 ⟨hafter, rfl⟩] at hslow
    cases hslow

end Session

end SpaGateway
