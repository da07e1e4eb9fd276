import Mathlib.Tactic
import SpaGateway.Config
import SpaGateway.Proofs.Session.Call

/-!
# What a session waits for

A session that has introduced itself always waits for something: for the answer to its hello, or for
the silence of its peer to last too long and for its own next ping (`Session.IsWaiting`).  No call
but the last changes that.

Letting time pass leaves nothing due, whatever the time is: `Session.lt_of_mem_deadlines_poll`.
This takes settings with which no wait is over as soon as it begins, and a configuration gives such
settings unless one of its two timeouts is zero; without pings there is no interval to be zero.
-/

namespace SpaGateway

/-- Settings with which no wait is over as soon as it begins. -/
structure SessionSettings.IsPositive (settings : SessionSettings) : Prop where
  udpTimeout_pos : 0 < settings.udpTimeout
  handshakeTimeout_pos : 0 < settings.handshakeTimeout
  pingInterval_pos : ∀ interval ∈ settings.pingInterval, 0 < interval

/-- A configuration asks for no pings rather than for pings all the time. -/
lemma GatewayConfig.isPositive_sessionSettings {config : GatewayConfig}
    (hudp : 0 < config.udpTimeout) (hhandshake : 0 < config.handshakeTimeout) :
    config.sessionSettings.IsPositive where
  udpTimeout_pos := Nat.mul_pos hudp (by decide)
  handshakeTimeout_pos := Nat.mul_pos hhandshake (by decide)
  pingInterval_pos interval hinterval := by
    obtain ⟨seconds, hseconds, rfl⟩ := Option.map_eq_some_iff.1 hinterval
    rw [pingEvery?] at hseconds
    split at hseconds
    · obtain rfl := Option.some.inj hseconds
      exact Nat.mul_pos (by assumption) (by decide)
    · cases hseconds

namespace Session

variable {s s' : Session} {now time : Nat} {call : SessionCall} {outputs : List SessionOutput}

/-- Whether a session waits for its peer. -/
def IsWaiting (s : Session) : Prop := s.phase = .awaitingHello ∨ s.phase = .authorized

lemma deadlines_of_awaitingHello (h : s.phase = .awaitingHello) :
    s.deadlines = [s.since + s.settings.handshakeTimeout] := by
  rw [deadlines, h]

lemma deadlines_of_authorized (h : s.phase = .authorized) :
    s.deadlines = (s.lastActivity + s.settings.udpTimeout) :: s.pingDue?.toList := by
  rw [deadlines, h]

/-- A ping is due an interval after the last one. -/
lemma mem_pingDue?_iff :
    time ∈ s.pingDue? ↔
      ∃ interval ∈ s.settings.pingInterval, ∃ last ∈ s.lastPing, last + interval = time := by
  rw [pingDue?]
  cases s.settings.pingInterval <;> cases s.lastPing <;> simp

/-- A session that waits has a time for it. -/
lemma IsWaiting.deadlines_ne_nil (h : s.IsWaiting) : s.deadlines ≠ [] := by
  rcases h with hawaiting | hauthorized
  · simp [deadlines_of_awaitingHello hawaiting]
  · simp [deadlines_of_authorized hauthorized]

/-- Only its end keeps a session from waiting on. -/
lemma Move.isWaiting (hmove : s.Move now call s' outputs) (hcall : call ≠ .close)
    (h : s.IsWaiting) : s'.IsWaiting := by
  cases hmove with
  | ignore | reject => exact h
  | start | timeOut | fallSilent => exact .inl rfl
  | welcome => exact .inr rfl
  | accept haccepts => exact .inr (accepts_eq_true_iff.1 haccepts).1
  | ping hphase => exact .inr hphase
  | close => exact absurd rfl hcall

/-- A hello that goes out now waits for its answer a while. -/
lemma lt_of_mem_deadlines_introduced (h : s.settings.IsPositive) {key : Octets}
    (htime : time ∈ (s.introduced now key).deadlines) : now < time := by
  rw [deadlines_of_awaitingHello rfl, List.mem_singleton] at htime
  rw [htime]
  exact Nat.lt_add_of_pos_right h.handshakeTimeout_pos

/-- **Letting time pass leaves nothing due.** -/
theorem Move.lt_of_mem_deadlines {fresh : Octets} (hmove : s.Move now (.poll fresh) s' outputs)
    (h : s.settings.IsPositive) (htime : time ∈ s'.deadlines) : now < time := by
  cases hmove with
  | ignore hignores =>
    obtain ⟨hawaiting, hauthorized⟩ := hignores
    cases hphase : s.phase with
    | awaitingHello =>
      rw [deadlines_of_awaitingHello hphase, List.mem_singleton] at htime
      have hearly := hawaiting hphase
      omega
    | authorized =>
      rw [deadlines_of_authorized hphase, List.mem_cons, Option.mem_toList] at htime
      obtain ⟨hidle, hping⟩ := hauthorized hphase
      rcases htime with rfl | hdue
      · rw [idle] at hidle
        omega
      · exact not_le.1 fun hle => hping ⟨time, hdue, hle⟩
    | unauthenticated | expired | closed =>
      rw [deadlines, hphase] at htime
      cases htime
  | timeOut => exact lt_of_mem_deadlines_introduced (s := s.failedAgain) h htime
  | fallSilent => exact lt_of_mem_deadlines_introduced h htime
  | ping hphase hidle =>
    set pinged : Session := { s with lastPing := some now } with hpinged
    rw [deadlines_of_authorized (s := pinged) hphase, List.mem_cons, Option.mem_toList] at htime
    rcases htime with rfl | hdue
    · rw [idle] at hidle
      simp only [hpinged]
      omega
    · obtain ⟨interval, hinterval, last, hlast, rfl⟩ := mem_pingDue?_iff.1 hdue
      obtain rfl := Option.some.inj hlast
      exact Nat.lt_add_of_pos_right (h.pingInterval_pos interval hinterval)

lemma lt_of_mem_deadlines_poll (h : s.settings.IsPositive) (fresh : Octets)
    (htime : time ∈ (s.poll fresh now).1.deadlines) : now < time :=
  (move_poll fresh).lt_of_mem_deadlines h htime

end Session

end SpaGateway
