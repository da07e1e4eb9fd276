import Mathlib.Tactic
import SpaGateway.Proofs.Relay.Upkeep
import SpaGateway.Relay.Host

/-!
# How late sweeps come

A relay forgets a mapping with the first sweep at or after its expiry.  A sweep foretells the next
one: it sleeps until the first of the mappings that it left expires, or for the shorter timeout if
it left none.  A mapping that is made or heard of meanwhile does not wake it.  So a mapping can
expire while the sweep sleeps for another one, and it lingers until that one is due.

`RelayHost.OnWatch` says what is known between two sweeps, and `RelayHost.OnWatch.act` that it stays
so.  `RelayHost.lateness_le_iff` gives the exact bound: mappings linger for the difference of the
two timeouts at most, and no smaller bound holds.

The longer timeout can reach beyond the end of the clock.  No sweep gets past a mapping that stays
for so long, so none ever sleeps longer than for the shorter one (`RelayHost.longestSleep`), and
then no mapping is late.
-/

namespace SpaGateway

open ForwardTable (Operation ofOperations)

namespace Relay

variable {r : Relay} {now next : Nat}

/-- There is a next sweep if the clock reaches all the times that count for it. -/
lemma snd_sweep_eq_some_iff : (r.sweep now).2 = some next ↔
    r.forwards.outlastsClock r.handshakeTimeout r.udpTimeout = false ∧
      now + r.sweepInterval < clockEnd ∧
      (r.forwards.sweep now r.handshakeTimeout r.udpTimeout).next.getD (now + r.sweepInterval) =
        next := by
  rw [sweep, ForwardTable.sweepInReach?]
  cases r.forwards.outlastsClock r.handshakeTimeout r.udpTimeout <;> simp

/-- Then all that has expired is removed. -/
lemma fst_sweep_of_next (h : (r.sweep now).2 = some next) : (r.sweep now).1 =
    { r with forwards := (r.forwards.sweep now r.handshakeTimeout r.udpTimeout).table } := by
  obtain ⟨hreach, -⟩ := snd_sweep_eq_some_iff.1 h
  rw [sweep, ForwardTable.sweepInReach?, hreach]
  rfl

end Relay

namespace RelayHost

/-! ## Runs with sweeps on time -/

/-- What can happen around a relay whose sweeps come when they are asked for. -/
inductive Action where
  /-- Something arrives. -/
  | arrive (input : RelayInput)
  /-- Time passes, until the next sweep at most. -/
  | wait (ms : Nat)
  /-- The relay is swept if that is due. -/
  | wake
  deriving DecidableEq

/-- The host after an action.  A sweep does not arrive, it is waited for. -/
def act (h : RelayHost) : Action → RelayHost
  | .arrive input => if input = .sweep then h else h.react input
  | .wait ms => { h with now := min (h.now + ms) h.nextSweep }
  | .wake => h.sweepIfDue

/-- The host after a run. -/
def run (h : RelayHost) (actions : List Action) : RelayHost := actions.foldl act h

lemma run_nil (h : RelayHost) : h.run [] = h := rfl

lemma run_cons (h : RelayHost) (action : Action) (actions : List Action) :
    h.run (action :: actions) = (h.act action).run actions := rfl

/-- A host whose relay has just been bound, when the clock has run for so long: its first sweep is
due at once. -/
def launch (relay : Relay) (uptime : Nat) : RelayHost :=
  { relay, now := uptime, nextSweep := uptime }

/-- What an action makes the relay react to, while it runs. -/
def event? (h : RelayHost) : Action → Option Relay.Event
  | .arrive input => if h.isRunning ∧ input ≠ .sweep then some ⟨h.now, input⟩ else none
  | .wait _ => none
  | .wake => if h.isRunning ∧ h.nextSweep ≤ h.now then some ⟨h.now, .sweep⟩ else none

/-- What a run makes the relay react to. -/
def events (h : RelayHost) (actions : List Action) : List Relay.Event :=
  (steps act h actions).filterMap fun step => step.before.event? step.action

/-- What a run does to the forward table. -/
def operations (h : RelayHost) (actions : List Action) : List Operation :=
  Relay.operations (h.relay.history (h.events actions))

/-- Starting a relay is a run of it. -/
lemma start_eq_run (relay : Relay) (waiting : List (SocketAddress × Octets)) (uptime : Nat) :
    start relay waiting uptime = (launch relay uptime).run
      (waiting.map (fun (sender, data) => .arrive (.spaSocket sender data)) ++ [.wake]) := by
  rw [start, run, List.foldl_append, List.foldl_map]
  rfl

/-- So is letting time pass, until the next sweep at most. -/
lemma advance_eq_run {h : RelayHost} {ms : Nat} (hms : h.now + ms ≤ h.nextSweep) :
    h.advance ms = h.run [.wait ms, .wake] := by
  rw [advance, run_cons, run_cons, run_nil, act, act, min_eq_left hms]

/-! ## The relay in a run -/

section

variable {h : RelayHost}

lemma act_arrive (hrunning : h.isRunning = true) {input : RelayInput} (hinput : input ≠ .sweep) :
    h.act (.arrive input) =
      { h with
        relay := (h.relay.react h.now input).1
        log := h.log ++ (h.relay.react h.now input).2 } := by
  simp only [act, hinput, if_false, react, hrunning, if_true]

/-- A sweep that is not due does not take place. -/
lemma act_wake_of_lt (hearly : h.now < h.nextSweep) : h.act .wake = h := by
  simp [act, sweepIfDue, not_le.2 hearly]

/-- A sweep that is due foretells the next one. -/
lemma act_wake_of_next (hrunning : h.isRunning = true) (hdue : h.nextSweep ≤ h.now) {next : Nat}
    (hnext : (h.relay.sweep h.now).2 = some next) :
    h.act .wake = { h with relay := (h.relay.sweep h.now).1, nextSweep := next } := by
  rw [act, sweepIfDue, if_pos (by simp [hrunning, hdue])]
  split <;> rename_i hsweep <;> rw [hsweep] at hnext <;> cases hnext
  rw [hsweep]

/-- Or it ends the run. -/
lemma act_wake_of_none (hrunning : h.isRunning = true) (hdue : h.nextSweep ≤ h.now)
    (hnone : (h.relay.sweep h.now).2 = none) :
    h.act .wake = { h with relay := (h.relay.sweep h.now).1, isRunning := false } := by
  rw [act, sweepIfDue, if_pos (by simp [hrunning, hdue])]
  split <;> rename_i hsweep <;> rw [hsweep] at hnone <;> cases hnone
  rw [hsweep]

/-- Nothing happens to a relay whose run has ended. -/
lemma relay_act_of_not_isRunning (hended : h.isRunning = false) (action : Action) :
    (h.act action).relay = h.relay := by
  cases action with
  | arrive input => simp [act, react, hended]
  | wait => rfl
  | wake => simp [act, sweepIfDue, hended]

lemma relay_act (h : RelayHost) (action : Action) :
    (h.act action).relay = (h.event? action).elim h.relay h.relay.handle := by
  cases hrunning : h.isRunning with
  | false =>
    rw [relay_act_of_not_isRunning hrunning action]
    cases action <;> simp [event?, hrunning]
  | true =>
    cases action with
    | arrive input =>
      by_cases hinput : input = .sweep
      · subst hinput
        simp [act, event?]
      · rw [act_arrive hrunning hinput, event?, if_pos ⟨hrunning, hinput⟩]
        rfl
    | wait => rfl
    | wake =>
      rcases Nat.lt_or_ge h.now h.nextSweep with hearly | hdue
      · rw [act_wake_of_lt hearly, event?, if_neg fun hwake => hwake.2.not_gt hearly]
        rfl
      · rw [event?, if_pos ⟨hrunning, hdue⟩]
        cases hnext : (h.relay.sweep h.now).2 with
        | none =>
          rw [act_wake_of_none hrunning hdue hnext]
          rfl
        | some next =>
          rw [act_wake_of_next hrunning hdue hnext]
          rfl

end

lemma relay_run (h : RelayHost) (actions : List Action) :
    (h.run actions).relay = (h.events actions).foldl Relay.handle h.relay := by
  induction actions generalizing h with
  | nil => rfl
  | cons action actions ih =>
    have hevents : h.events (action :: actions) =
        (h.event? action).toList ++ (h.act action).events actions := by
      rw [events, steps, List.filterMap_cons, ← events]
      cases h.event? action <;> rfl
    rw [run_cons, ih, hevents, List.foldl_append, relay_act]
    cases h.event? action <;> rfl

lemma forwards_run {relay : Relay} (hforwards : relay.forwards = {}) (uptime : Nat)
    (actions : List Action) : ((launch relay uptime).run actions).relay.forwards =
      ofOperations ((launch relay uptime).operations actions) := by
  rw [relay_run]
  exact Relay.forwards_foldl_handle hforwards _

/-! ## Between two sweeps -/

/-- The longest that a sweep can sleep in a run that begins at a time: for the longer timeout,
unless no sweep gets past a mapping that stays for so long. -/
def longestSleep (uptime handshake udp : Nat) : Nat :=
  if uptime + max handshake udp < clockEnd then max handshake udp else min handshake udp

/-- What is known between two sweeps of a relay with these timeouts that runs since a time, the last
sweep at a given time: the next one is at most the longest sleep away from that, nothing was heard
of in the future or before the run, and a mapping either stays until the next sweep or was heard of
since the last one. -/
structure OnWatch (h : RelayHost) (uptime handshake udp swept : Nat) : Prop where
  handshake_eq : h.relay.handshakeTimeout = handshake
  udp_eq : h.relay.udpTimeout = udp
  isOneToOne : h.relay.forwards.IsOneToOne
  uptime_le : uptime ≤ swept
  swept_le : swept ≤ h.now
  now_le : h.now ≤ h.nextSweep
  nextSweep_le : h.nextSweep ≤ swept + longestSleep uptime handshake udp
  isHeardBy : ∀ id entry, h.relay.forwards.byId.get? id = some entry → entry.IsHeardBy h.now
  uptime_le_lastForward : ∀ id entry, h.relay.forwards.byId.get? id = some entry →
    uptime ≤ entry.lastForward
  foretold : ∀ id entry, h.relay.forwards.byId.get? id = some entry →
    h.nextSweep ≤ entry.expiresAt handshake udp ∨
      swept + min handshake udp ≤ entry.expiresAt handshake udp

lemma onWatch_launch {relay : Relay} (hforwards : relay.forwards = {}) (uptime : Nat) :
    (launch relay uptime).OnWatch uptime relay.handshakeTimeout relay.udpTimeout uptime := by
  have hnone (id : Octets) (entry : Forward) :
      ¬ (launch relay uptime).relay.forwards.byId.get? id = some entry := by
    simp [launch, hforwards, Index.get?]
  refine ⟨rfl, rfl, ?_, le_rfl, le_rfl, le_rfl, Nat.le_add_right _ _, ?_, ?_, ?_⟩
  · rw [launch, hforwards]
    exact ForwardTable.isOneToOne_empty
  all_goals exact fun id entry hget => (hnone id entry hget).elim

namespace OnWatch

variable {h : RelayHost} {uptime handshake udp swept : Nat}

/-- What arrives is heard of now, which is no earlier than the last sweep. -/
lemma arrive (hw : h.OnWatch uptime handshake udp swept) (hrunning : h.isRunning = true)
    {input : RelayInput} (hinput : input ≠ .sweep) :
    (h.act (.arrive input)).OnWatch uptime handshake udp swept := by
  obtain ⟨hello, localQueued, hreact⟩ := h.relay.react_eq h.now input
  rw [act_arrive hrunning hinput, hreact]
  have hsince : uptime ≤ h.now := hw.uptime_le.trans hw.swept_le
  have hentry {id : Octets} {entry : Forward}
      (hget : (h.relay.tended h.now input).byId.get? id = some entry) :
      entry.IsHeardBy h.now ∧ uptime ≤ entry.lastForward ∧
        (h.relay.forwards.byId.get? id = some entry ∨ entry.IsHeardAt h.now) := by
    unfold Relay.tended at hget
    cases hoperation : h.relay.operation? h.now input with
    | none =>
      rw [hoperation] at hget
      exact ⟨hw.isHeardBy id entry hget, hw.uptime_le_lastForward id entry hget, .inl hget⟩
    | some operation =>
      rw [hoperation] at hget
      have hnow : operation.now = h.now := Relay.now_of_operation? hoperation
      rw [← hnow] at hsince ⊢
      refine ⟨hw.isOneToOne.isHeardBy_of_perform (fun entry hbefore => ?_) hget,
        hw.isOneToOne.le_lastForward_of_perform hsince (hw.uptime_le_lastForward id) hget,
        hw.isOneToOne.isHeardAt_of_perform hget⟩
      rw [hnow]
      exact hw.isHeardBy id entry hbefore
  refine ⟨hw.handshake_eq, hw.udp_eq, ?_, hw.uptime_le, hw.swept_le, hw.now_le, hw.nextSweep_le,
    fun id entry hget => (hentry hget).1, fun id entry hget => (hentry hget).2.1,
    fun id entry hget => ?_⟩
  · have htended : (h.relay.tended h.now input).IsOneToOne := by
      unfold Relay.tended
      cases h.relay.operation? h.now input with
      | none => exact hw.isOneToOne
      | some operation => exact (hw.isOneToOne.perform operation).1
    exact htended
  · rcases (hentry hget).2.2 with hbefore | hheard
    · exact hw.foretold id entry hbefore
    · have hle := hheard.le_expiresAt handshake udp
      have hswept := hw.swept_le
      exact .inr (by omega)

lemma wait (hw : h.OnWatch uptime handshake udp swept) (ms : Nat) :
    (h.act (.wait ms)).OnWatch uptime handshake udp swept := by
  have hnow : h.now ≤ min (h.now + ms) h.nextSweep := le_min (Nat.le_add_right _ _) hw.now_le
  exact ⟨hw.handshake_eq, hw.udp_eq, hw.isOneToOne, hw.uptime_le, hw.swept_le.trans hnow,
    min_le_right _ _, hw.nextSweep_le, fun id entry hget => (hw.isHeardBy id entry hget).mono hnow,
    hw.uptime_le_lastForward, hw.foretold⟩

/-- A sweep that ends the run leaves no new mappings. -/
lemma ended (hw : h.OnWatch uptime handshake udp swept) :
    OnWatch { h with relay := (h.relay.sweep h.now).1, isRunning := false } uptime handshake udp
      swept := by
  rw [h.relay.fst_sweep]
  set sweep := Operation.sweep h.now h.relay.handshakeTimeout h.relay.udpTimeout
  have hleft {id : Octets} {entry : Forward}
      (hget : (h.relay.forwards.perform sweep).byId.get? id = some entry) :
      h.relay.forwards.byId.get? id = some entry :=
    hw.isOneToOne.get?_of_get?_perform_sweep hget
  exact ⟨hw.handshake_eq, hw.udp_eq, (hw.isOneToOne.perform sweep).1, hw.uptime_le, hw.swept_le,
    hw.now_le, hw.nextSweep_le, fun id entry hget => hw.isHeardBy id entry (hleft hget),
    fun id entry hget => hw.uptime_le_lastForward id entry (hleft hget),
    fun id entry hget => hw.foretold id entry (hleft hget)⟩

/-- What a sweep gets past stays for the longest sleep at most. -/
lemma expiresAt_le (hw : h.OnWatch uptime handshake udp swept) {id : Octets} {entry : Forward}
    (hget : h.relay.forwards.byId.get? id = some entry)
    (hreach : entry.expiresAt handshake udp < clockEnd) :
    entry.expiresAt handshake udp ≤ h.now + longestSleep uptime handshake udp := by
  obtain ⟨hforward, hreply⟩ := hw.isHeardBy id entry hget
  have hsince := hw.uptime_le_lastForward id entry hget
  rw [longestSleep]
  split
  · exact (hw.isHeardBy id entry hget).expiresAt_le handshake udp
  · -- the longer timeout would take the expiry beyond the end of the clock
    unfold Forward.expiresAt at hreach ⊢
    cases hlast : entry.lastReply with
    | none =>
      rw [hlast] at hreach
      dsimp only at hreach ⊢
      omega
    | some reply =>
      have hle := hreply reply hlast
      rw [hlast] at hreach
      dsimp only at hreach ⊢
      omega

/-- A sweep leaves what has not expired, and foretells the first expiry among that. -/
lemma foretells (hw : h.OnWatch uptime handshake udp swept) {next : Nat}
    (hnext : (h.relay.sweep h.now).2 = some next) :
    OnWatch { h with relay := (h.relay.sweep h.now).1, nextSweep := next } uptime handshake udp
      h.now := by
  rw [Relay.fst_sweep_of_next hnext]
  rw [Relay.snd_sweep_eq_some_iff, Relay.sweepInterval, hw.handshake_eq, hw.udp_eq,
    hw.isOneToOne.outlastsClock_eq_false_iff] at hnext
  rw [hw.handshake_eq, hw.udp_eq]
  obtain ⟨hreach, -, hnext⟩ := hnext
  obtain ⟨hsome, hnone⟩ := hw.isOneToOne.next_sweep h.now handshake udp
  set sweep := h.relay.forwards.sweep h.now handshake udp
  have hleft {id : Octets} {entry : Forward} (hget : sweep.table.byId.get? id = some entry) :
      h.relay.forwards.byId.get? id = some entry ∧ h.now < entry.expiresAt handshake udp :=
    hw.isOneToOne.get?_of_get?_sweep hget
  have hsleep : min handshake udp ≤ longestSleep uptime handshake udp := by
    unfold longestSleep
    split <;> omega
  have hbounds : h.now ≤ next ∧ next ≤ h.now + longestSleep uptime handshake udp ∧
      ∀ id entry, sweep.table.byId.get? id = some entry →
        next ≤ entry.expiresAt handshake udp := by
    cases hforetold : sweep.next with
    | none =>
      rw [hforetold, Option.getD_none] at hnext
      refine ⟨by omega, by omega, fun id entry hget => ?_⟩
      rw [hnone.1 hforetold id] at hget
      cases hget
    | some expiry =>
      rw [hforetold, Option.getD_some] at hnext
      obtain ⟨⟨id, entry, hget, rfl⟩, hall⟩ := (hsome next).1 (hforetold.trans (congrArg _ hnext))
      obtain ⟨hbefore, hlater⟩ := hleft hget
      exact ⟨hlater.le, hw.expiresAt_le hbefore (hreach id entry hbefore), hall⟩
  exact ⟨rfl, rfl, (hw.isOneToOne.sweep _ _ _).1, hw.uptime_le.trans hw.swept_le, le_rfl,
    hbounds.1, hbounds.2.1, fun id entry hget => hw.isHeardBy id entry (hleft hget).1,
    fun id entry hget => hw.uptime_le_lastForward id entry (hleft hget).1,
    fun id entry hget => .inl (hbounds.2.2 id entry hget)⟩

/-- **The watch over the mappings goes on.** -/
theorem act (hw : h.OnWatch uptime handshake udp swept) (action : Action) :
    ∃ swept', (h.act action).OnWatch uptime handshake udp swept' := by
  cases action with
  | arrive input =>
    by_cases hinput : input = .sweep
    · subst hinput
      exact ⟨swept, hw⟩
    · cases hrunning : h.isRunning with
      | true => exact ⟨swept, hw.arrive hrunning hinput⟩
      | false =>
        rw [RelayHost.act, if_neg hinput, react, if_neg (by simp [hrunning])]
        exact ⟨swept, hw⟩
  | wait ms => exact ⟨swept, hw.wait ms⟩
  | wake =>
    by_cases hdue : h.isRunning = true ∧ h.nextSweep ≤ h.now
    · obtain ⟨hrunning, hdue⟩ := hdue
      cases hnext : (h.relay.sweep h.now).2 with
      | none =>
        rw [act_wake_of_none hrunning hdue hnext]
        exact ⟨swept, hw.ended⟩
      | some next =>
        rw [act_wake_of_next hrunning hdue hnext]
        exact ⟨h.now, hw.foretells hnext⟩
    · rw [RelayHost.act, sweepIfDue, if_neg (by simpa using hdue)]
      exact ⟨swept, hw⟩

lemma run (hw : h.OnWatch uptime handshake udp swept) (actions : List Action) :
    ∃ swept', (h.run actions).OnWatch uptime handshake udp swept' := by
  induction actions generalizing h swept with
  | nil => exact ⟨swept, hw⟩
  | cons action actions ih =>
    obtain ⟨swept', hact⟩ := hw.act action
    exact ih hact

/-- Under watch, a mapping is as late at most as the longest sleep is longer than the shorter
timeout. -/
lemma now_le_add (hw : h.OnWatch uptime handshake udp swept) {id : Octets} {entry : Forward}
    (hget : h.relay.forwards.byId.get? id = some entry) :
    h.now ≤ entry.expiresAt handshake udp +
      (longestSleep uptime handshake udp - min handshake udp) := by
  have hnow := hw.now_le
  have hnext := hw.nextSweep_le
  rcases hw.foretold id entry hget with hstays | hheard <;> omega

end OnWatch

/-! ## Mappings as late as can be -/

section

/-- Where the spa of the following runs is. -/
def spaAddress : SocketAddress := .v4 ⟨10, 0, 0, 1⟩ 10022

/-- Where their controller app is. -/
def appAddress : SocketAddress := .v4 ⟨10, 0, 0, 2⟩ 20000

/-- Their relay, just bound. -/
def boundRelay (handshake udp : Nat) : Relay :=
  { spa := spaAddress, hello := [0x53, 0x7c], localQueued := some 0, hasClients := true
    handshakeTimeout := handshake, udpTimeout := udp }

/-- The gateway speaks to the spa. -/
def gatewaySpeaks : RelayInput := .localLink (.authorized (some [0x61]) (some [0x53]) .ping)

/-- The app speaks to the spa. -/
def appSpeaks : RelayInput :=
  .clientSocket appAddress (Frame.encode (.authorized (some [0x62]) (some [0x53]) .ping))

/-- The spa answers an id. -/
def spaAnswers (id : Octets) : RelayInput :=
  .spaSocket spaAddress (Frame.encode (.authorized (some [0x53]) (some id) .pong))

/-- While a sweep sleeps for the gateway, which the spa has answered, the silent app expires. -/
def silentAppRun (udp : Nat) : List Action :=
  [.arrive gatewaySpeaks, .arrive (spaAnswers [0x61]), .wake, .arrive appSpeaks, .wait udp]

/-- While a sweep sleeps for the silent gateway, the app expires that the spa has answered. -/
def answeredAppRun (handshake : Nat) : List Action :=
  [.arrive gatewaySpeaks, .wake, .arrive appSpeaks, .arrive (spaAnswers [0x62]), .wait handshake]

end

variable (uptime handshake udp : Nat)

/-- With one mapping the next sweep comes when that expires. -/
lemma act_wake_of_single {h : RelayHost} (hrunning : h.isRunning = true)
    (hdue : h.nextSweep = h.now) {id : Octets} {entry : Forward} {expiry : Nat}
    (hsingle : h.relay.forwards.byId.entries = [(id, entry)])
    (hexpiry : entry.expiresAt h.relay.handshakeTimeout h.relay.udpTimeout = expiry)
    (hlive : h.now < expiry) (hreach : expiry < clockEnd)
    (hidle : h.now + h.relay.sweepInterval < clockEnd) :
    h.act .wake = { h with nextSweep := expiry } := by
  have hsweep : h.relay.sweep h.now = (h.relay, some expiry) := by
    simp [Relay.sweep, ForwardTable.sweepInReach?, ForwardTable.outlastsClock, ForwardTable.sweep,
      hsingle, hexpiry, hlive, hreach.not_ge, hidle.not_ge, ForwardTable.earliest?]
  rw [act_wake_of_next hrunning hdue.le (congrArg Prod.snd hsweep), hsweep]

lemma act_wait_of_eq {h : RelayHost} {ms : Nat} (hdue : h.nextSweep = h.now + ms) :
    h.act (.wait ms) = { h with now := h.nextSweep } := by
  rw [act, hdue, min_self]

lemma silentAppRun_late (hlt : handshake < udp) (hreach : uptime + udp < clockEnd) :
    let late := (launch (boundRelay handshake udp) uptime).run (silentAppRun udp)
    late.relay.forwards.byId.get? [0x62] = some ⟨.client appAddress, uptime, none⟩ ∧
      late.now = uptime + udp := by
  intro late
  set answered := ((launch (boundRelay handshake udp) uptime).act (.arrive gatewaySpeaks)).act
    (.arrive (spaAnswers [0x61]))
  have hwake : answered.act .wake = { answered with nextSweep := uptime + udp } := by
    have hsingle : answered.relay.forwards.byId.entries =
        [([0x61], ⟨.gateway, uptime, some uptime⟩)] := rfl
    have hexpiry : max uptime uptime + udp = uptime + udp := by rw [max_self]
    have hlive : uptime < uptime + udp := by omega
    have hidle : uptime + min handshake udp < clockEnd := by omega
    exact act_wake_of_single rfl rfl hsingle hexpiry hlive hreach hidle
  have hlate : late =
      { answered with nextSweep := uptime + udp }.run [.arrive appSpeaks, .wait udp] := by
    simp only [late, silentAppRun, run_cons]
    rw [hwake]
  rw [hlate, run_cons, run_cons, run_nil, act_wait_of_eq rfl]
  exact ⟨rfl, rfl⟩

lemma answeredAppRun_late (hlt : udp < handshake) (hreach : uptime + handshake < clockEnd) :
    let late := (launch (boundRelay handshake udp) uptime).run (answeredAppRun handshake)
    late.relay.forwards.byId.get? [0x62] = some ⟨.client appAddress, uptime, some uptime⟩ ∧
      late.now = uptime + handshake := by
  intro late
  set spoken := (launch (boundRelay handshake udp) uptime).act (.arrive gatewaySpeaks)
  have hwake : spoken.act .wake = { spoken with nextSweep := uptime + handshake } := by
    have hsingle : spoken.relay.forwards.byId.entries = [([0x61], ⟨.gateway, uptime, none⟩)] := rfl
    have hlive : uptime < uptime + handshake := by omega
    have hidle : uptime + min handshake udp < clockEnd := by omega
    exact act_wake_of_single rfl rfl hsingle rfl hlive hreach hidle
  have hlate : late = { spoken with nextSweep := uptime + handshake }.run
      [.arrive appSpeaks, .arrive (spaAnswers [0x62]), .wait handshake] := by
    simp only [late, answeredAppRun, run_cons]
    rw [hwake]
  rw [hlate, run_cons, run_cons, run_cons, run_nil, act_wait_of_eq rfl]
  exact ⟨rfl, rfl⟩

/-- Unless the timeouts agree, some run leaves a mapping as late as their difference, if the clock
reaches the longer one. -/
lemma exists_late (hne : handshake ≠ udp) (hreach : uptime + max handshake udp < clockEnd) :
    ∃ actions id entry,
      let late := (launch (boundRelay handshake udp) uptime).run actions
      late.relay.forwards.byId.get? id = some entry ∧
        late.now = entry.expiresAt handshake udp + (max handshake udp - min handshake udp) := by
  rcases Nat.lt_or_gt_of_ne hne with hlt | hlt
  · rw [max_eq_right hlt.le] at hreach
    obtain ⟨hget, hnow⟩ := silentAppRun_late uptime handshake udp hlt hreach
    refine ⟨_, _, _, hget, hnow.trans ?_⟩
    dsimp only [Forward.expiresAt]
    omega
  · rw [max_eq_left hlt.le] at hreach
    obtain ⟨hget, hnow⟩ := answeredAppRun_late uptime handshake udp hlt hreach
    refine ⟨_, _, _, hget, hnow.trans ?_⟩
    dsimp only [Forward.expiresAt]
    omega

/-- **How late sweeps come.**  In every run of a relay whose sweeps come when they are asked for,
whenever it begins, a mapping that is still there expired no longer ago than the difference of the
two timeouts, and no smaller bound holds of every run.  When a mapping expires is read off what was
done to the table.

If the clock does not reach the longer timeout, then no sweep gets past a mapping that stays for so
long, and a mapping that is still there while the relay runs is never late. -/
theorem lateness_le_iff (config : GatewayConfig) (uptime bound : Nat) :
    let handshake := config.handshakeTimeout * GatewayConfig.second
    let udp := config.udpTimeout * GatewayConfig.second
    (∀ spa hello hasLocal hasClients actions,
      let launched := launch (Relay.create config spa hello hasLocal hasClients) uptime
      let history := ForwardTable.history (launched.operations actions)
      let h := launched.run actions
      ∀ id peer, h.relay.forwards.peer? id = some peer →
        ∃ expiry, ForwardTable.expiry? handshake udp history id peer = some expiry ∧
          h.now ≤ expiry + bound) ↔
      (uptime + max handshake udp < clockEnd →
        max handshake udp - min handshake udp ≤ bound) := by
  intro handshake udp
  constructor
  · intro hall hreach
    by_cases heq : handshake = udp
    · rw [heq, max_self, min_self, Nat.sub_self]
      exact Nat.zero_le bound
    · have hforwards : (boundRelay handshake udp).forwards = {} := rfl
      obtain ⟨actions, id, entry, hget, hnow⟩ := exists_late uptime handshake udp heq hreach
      have hmapped :
          ((launch (boundRelay handshake udp) uptime).run actions).relay.forwards.peer? id =
            some entry.peer := ForwardTable.peer?_eq_some_iff.2 ⟨entry, hget, rfl⟩
      obtain ⟨expiry, hexpiry, hle⟩ :=
        hall spaAddress [0x53, 0x7c] true true actions id entry.peer hmapped
      have hentry : ForwardTable.expiry? handshake udp (ForwardTable.history
          ((launch (boundRelay handshake udp) uptime).operations actions)) id entry.peer =
            some (entry.expiresAt handshake udp) :=
        ForwardTable.expiry?_eq_of_get? _ _ _ (forwards_run hforwards uptime actions ▸ hget)
      obtain rfl : entry.expiresAt handshake udp = expiry :=
        Option.some.inj (hentry.symm.trans hexpiry)
      change ((launch (boundRelay handshake udp) uptime).run actions).now ≤ _ at hle
      omega
  · intro hbound spa hello hasLocal hasClients actions launched history h id peer hmapped
    have hforwards : (Relay.create config spa hello hasLocal hasClients).forwards = {} := rfl
    obtain ⟨entry, hget, rfl⟩ := ForwardTable.peer?_eq_some_iff.1 hmapped
    obtain ⟨swept, hwatch⟩ := (onWatch_launch hforwards uptime).run actions
    have hle : h.now ≤ entry.expiresAt handshake udp +
      (longestSleep uptime handshake udp - min handshake udp) := hwatch.now_le_add hget
    have hslack : longestSleep uptime handshake udp - min handshake udp ≤ bound := by
      unfold longestSleep
      split
      · exact hbound ‹_›
      · omega
    rw [forwards_run hforwards uptime actions] at hget
    exact ⟨_, ForwardTable.expiry?_eq_of_get? _ _ _ hget,
      hle.trans (Nat.add_le_add_left hslack _)⟩

/-- With the timeouts that a gateway has unless it is told others, an app that the spa never answers
lingers for 290 seconds, far longer than the ten after which its mapping expires. -/
theorem late_of_silent_app :
    let launched := launch (Relay.create {} spaAddress [0x53, 0x7c] true true) 0
    let actions := [.wake, .wait 10000] ++ silentAppRun 300000
    let h := launched.run actions
    (launched.relay.handshakeTimeout, launched.relay.udpTimeout) = (10000, 300000) ∧
      h.relay.forwards.peer? [0x62] = some (.client appAddress) ∧
      ForwardTable.expiry? 10000 300000 (ForwardTable.history (launched.operations actions)) [0x62]
        (.client appAddress) = some 20000 ∧
      20000 + min 10000 300000 < h.now := by
  decide +kernel

end RelayHost

end SpaGateway
