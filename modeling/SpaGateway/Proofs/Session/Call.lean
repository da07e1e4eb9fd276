import Mathlib.Tactic
import SpaGateway.Proofs.History
import SpaGateway.Proofs.Octets.Mark
import SpaGateway.Session

/-!
# What a call does to a session

The owner of a session calls it: to start it, to hand it a package, to let time pass, to wrap
content for the peer, and to close it.  A run is any sequence of such calls at any times.

`Session.Move` lists what can come of a call, with the circumstances in which it does, the state
afterwards and everything that the session wants then; `Session.move_perform` says that the list is
complete.  What holds over whole runs is read off this list, call by call.
-/

namespace SpaGateway

/-! ## Hellos that name the spa -/

lemma ledBy_helloDelimiter : Octets.LedBy helloDelimiter [helloDelimiter] := ⟨[], rfl, by simp⟩

/-- The delimiter that counts is the first one. -/
lemma splitHello?_eq_some_iff {payload peer name : Octets} :
    splitHello? payload = some (peer, name) ↔
      helloDelimiter ∉ peer ∧ payload = peer ++ helloDelimiter :: name := by
  rw [splitHello?, Octets.cut?_eq_some_iff ledBy_helloDelimiter, List.singleton_infix_iff]
  simp [and_comm]

lemma splitHello?_eq_none_iff {payload : Octets} :
    splitHello? payload = none ↔ helloDelimiter ∉ payload := by
  rw [splitHello?, Octets.cut?_eq_none_iff, List.singleton_infix_iff]

/-! ## Packages that count -/

/-- Whether a package with this destination is for somebody else, known by another id. -/
def Session.isOther (s : Session) (destination : Option Octets) : Bool :=
  destination.any (· ≠ s.key)

/-- Whether a session accepts an authorized package with this destination. -/
def Session.accepts (s : Session) (destination : Option Octets) : Bool :=
  s.isAuthorized && !s.isOther destination

/-! ## Calls -/

/-- What the owner of a session can call. -/
inductive SessionCall where
  /-- The session is to introduce itself. -/
  | start
  /-- A package arrived. -/
  | handle (package : Package)
  /-- Time passed; the key is for the next session, should this one expire. -/
  | poll (fresh : Octets)
  /-- Content is to be wrapped for the peer. -/
  | frame (content : Content)
  /-- The session is to end. -/
  | close
  deriving DecidableEq

/-- The package to be sent, if that is what an output asks for. -/
def SessionOutput.package? : SessionOutput → Option Package
  | transmit package => some package
  | event _ => none

namespace Session

/-- A call and when it is made. -/
structure Event where
  now : Nat
  call : SessionCall
  deriving DecidableEq

/-- Makes a call: the session afterwards, and what it wants, in order. -/
def perform (s : Session) (now : Nat) : SessionCall → Session × List SessionOutput
  | .start => s.start now
  | .handle package => s.handle package now
  | .poll fresh => s.poll fresh now
  | .frame _ => (s, [])
  | .close => (s.close, [])

/-- The session after a call. -/
def after (s : Session) (event : Event) : Session := (s.perform event.now event.call).1

/-- What the session wants because of a call. -/
def outputs (s : Session) (event : Event) : List SessionOutput :=
  (s.perform event.now event.call).2

/-- The packages that a call gives back, those to be sent and those that were to be wrapped. -/
def packages (s : Session) (event : Event) : List Package :=
  (s.outputs event).filterMap SessionOutput.package? ++
    match event.call with
    | .frame content => (s.frame? content).toList
    | _ => []

/-- The steps of a session's run. -/
def history (s : Session) (events : List Event) : List (Step Session Event) := steps after s events

/-- The peer and its name, if a call completes the handshake. -/
def welcome? (s : Session) : SessionCall → Option (Octets × Octets)
  | .handle (.hello payload) => if s.phase = .awaitingHello then splitHello? payload else none
  | _ => none

/-- The peers that welcomed the session in a run, with their names. -/
def welcomes (history : List (Step Session Event)) : List (Octets × Octets) :=
  history.filterMap fun step => step.before.welcome? step.action.call

lemma history_concat (s : Session) (past : List Event) (event : Event) :
    s.history (past ++ [event]) = s.history past ++ [⟨past.foldl after s, event⟩] :=
  steps_concat s past event

variable (s : Session) (now : Nat)

/-! ## What can come of a call -/

/-- The session that has just introduced itself under a key. -/
def introduced (key : Octets) : Session :=
  { s with
    key, peer := none, deviceName := none, phase := .awaitingHello, since := now
    lastActivity := now, lastPing := none }

/-- The session that has just been welcomed by a peer. -/
def welcomed (peer name : Octets) : Session :=
  { s with
    peer := some peer, deviceName := some name, phase := .authorized, since := now
    lastActivity := now, lastPing := some now, failedHandshakes := 0, seq := s.seq + 1 }

/-- The key of the session that follows this one. -/
def nextKey (fresh : Octets) : Octets := if s.pinned then s.key else fresh

/-- The session with one more failed handshake to its account. -/
def failedAgain : Session := { s with failedHandshakes := s.failedHandshakes + 1 }

/-- What a session wants when it has accepted content. -/
def answer (source : Option Octets) : Content → List SessionOutput
  | .ping => [.transmit (.authorized (some s.key) s.peer .pong)]
  | .pong => []
  | .data payload => [.event (.data source payload)]

/-- Whether an own ping is due. -/
def OwesPing : Prop := ∃ due ∈ s.pingDue?, due ≤ now

/-- Whether nothing comes of a call. -/
def Ignores : SessionCall → Prop
  | .start => s.phase = .closed
  | .handle (.hello _) => s.phase ≠ .awaitingHello
  | .handle (.authorized _ destination _) => s.accepts destination = false
  | .poll _ =>
    (s.phase = .awaitingHello → now - s.since < s.settings.handshakeTimeout) ∧
      (s.phase = .authorized → s.idle now < s.settings.udpTimeout ∧ ¬ s.OwesPing now)
  | .frame _ => True
  | .close => False

/-- **What can come of a call.** -/
inductive Move : SessionCall → Session → List SessionOutput → Prop
  /-- Nothing. -/
  | ignore {call : SessionCall} (h : s.Ignores now call) : Move call s []
  /-- The session introduces itself. -/
  | start (h : s.phase ≠ .closed) :
      Move .start (s.introduced now s.key) [.transmit (.hello s.key)]
  /-- The peer answers the hello, and is asked for its versions. -/
  | welcome {peer name : Octets} (h : s.phase = .awaitingHello) (hpeer : helloDelimiter ∉ peer) :
      Move (.handle (.hello (peer ++ helloDelimiter :: name))) (s.welcomed now peer name)
        [.event (.authorized peer name), .transmit (.authorized (some s.key) (some peer)
          (.data (Payload.versionQuery s.seq).compose))]
  /-- An answer to the hello names nobody. -/
  | reject {payload : Octets} (h : s.phase = .awaitingHello) (hpayload : helloDelimiter ∉ payload) :
      Move (.handle (.hello payload)) s [.event (.malformedHandshake payload)]
  /-- A package for this session counts as a sign of life. -/
  | accept {source destination : Option Octets} {content : Content}
      (h : s.accepts destination = true) :
      Move (.handle (.authorized source destination content)) { s with lastActivity := now }
        (s.answer source content)
  /-- The hello was not answered in time. -/
  | timeOut {fresh : Octets} (h : s.phase = .awaitingHello)
      (hdue : s.settings.handshakeTimeout ≤ now - s.since) :
      Move (.poll fresh) (s.failedAgain.introduced now (s.nextKey fresh))
        (.event (.expired .awaitingHello) :: s.failedAgain.unreachableReport ++
          [.transmit (.hello (s.nextKey fresh))])
  /-- The peer was silent for too long. -/
  | fallSilent {fresh : Octets} (h : s.phase = .authorized)
      (hdue : s.settings.udpTimeout ≤ s.idle now) :
      Move (.poll fresh) (s.introduced now (s.nextKey fresh))
        [.event (.expired .authorized), .transmit (.hello (s.nextKey fresh))]
  /-- The session pings its peer. -/
  | ping {fresh : Octets} (h : s.phase = .authorized)
      (hidle : s.idle now < s.settings.udpTimeout) (hdue : s.OwesPing now) :
      Move (.poll fresh) { s with lastPing := some now }
        [.transmit (.authorized (some s.key) s.peer .ping)]
  /-- The session ends. -/
  | close : Move .close s.close []

variable {s now}

lemma accepts_eq_true_iff {destination : Option Octets} :
    s.accepts destination = true ↔ s.phase = .authorized ∧ ∀ id ∈ destination, id = s.key := by
  cases destination <;> simp [accepts, isAuthorized, isOther]

lemma handleAuthorized_of_not_accepts {destination : Option Octets}
    (h : s.accepts destination = false) (source : Option Octets) (content : Content) :
    s.handleAuthorized source destination content now = (s, []) := by
  rw [handleAuthorized]
  split
  · rfl
  · rename_i hphase
    have hauthorized : s.isAuthorized = true := by simpa [isAuthorized] using hphase
    rw [accepts, hauthorized, Bool.true_and, Bool.not_eq_false'] at h
    exact if_pos h

lemma handleAuthorized_of_accepts {destination : Option Octets} (h : s.accepts destination = true)
    (source : Option Octets) (content : Content) :
    s.handleAuthorized source destination content now =
      ({ s with lastActivity := now }, s.answer source content) := by
  obtain ⟨hphase, hkey⟩ := accepts_eq_true_iff.1 h
  have hother : ¬ destination.any (· ≠ s.key) := by
    cases destination <;> simp_all
  rw [handleAuthorized, if_neg (not_not_intro hphase), if_neg hother]
  cases content with
  | ping => simp [reply, frame?, hphase, answer]
  | pong | data => rfl

lemma handleHello_of_notMem {peer : Octets} (hphase : s.phase = .awaitingHello)
    (hpeer : helloDelimiter ∉ peer) (name : Octets) :
    s.handleHello (peer ++ helloDelimiter :: name) now = (s.welcomed now peer name,
      [.event (.authorized peer name), .transmit (.authorized (some s.key) (some peer)
        (.data (Payload.versionQuery s.seq).compose))]) := by
  rw [handleHello, if_neg (not_not_intro hphase), splitHello?_eq_some_iff.2 ⟨hpeer, rfl⟩]
  rfl

lemma handleHello_of_malformed {payload : Octets} (hphase : s.phase = .awaitingHello)
    (hpayload : helloDelimiter ∉ payload) :
    s.handleHello payload now = (s, [.event (.malformedHandshake payload)]) := by
  rw [handleHello, if_neg (not_not_intro hphase), splitHello?_eq_none_iff.2 hpayload]

lemma handleHello_of_ne (hphase : s.phase ≠ .awaitingHello) (payload : Octets) :
    s.handleHello payload now = (s, []) := if_pos hphase

lemma expire_eq (fresh : Octets) (report : List SessionOutput) :
    s.expire fresh report now = (s.introduced now (s.nextKey fresh),
      .event (.expired s.phase) :: report ++ [.transmit (.hello (s.nextKey fresh))]) := rfl

lemma welcome?_eq_some_iff {call : SessionCall} {peer name : Octets} :
    s.welcome? call = some (peer, name) ↔ s.phase = .awaitingHello ∧ helloDelimiter ∉ peer ∧
      call = .handle (.hello (peer ++ helloDelimiter :: name)) := by
  rcases call with _ | (payload | _) | _ | _ | _
  case handle.hello =>
    by_cases hphase : s.phase = .awaitingHello
    · simp [welcome?, hphase, splitHello?_eq_some_iff]
    · simp [welcome?, hphase]
  all_goals simp [welcome?]

lemma welcome?_eq_none_of_phase (h : s.phase ≠ .awaitingHello) (call : SessionCall) :
    s.welcome? call = none := by
  rw [Option.eq_none_iff_forall_ne_some]
  rintro ⟨peer, name⟩ hwelcome
  exact h (welcome?_eq_some_iff.1 hwelcome).1

/-- Only a session that awaits an answer is welcomed, and only by a hello with a delimiter. -/
lemma welcome?_eq_none_of_ignores {call : SessionCall} (h : s.Ignores now call) :
    s.welcome? call = none := by
  rcases call with _ | (payload | _) | _ | _ | _
  case handle.hello => exact welcome?_eq_none_of_phase h _
  all_goals rfl

lemma welcome?_hello_eq_none {payload : Octets} (h : helloDelimiter ∉ payload) :
    s.welcome? (.handle (.hello payload)) = none := by
  simp [welcome?, splitHello?_eq_none_iff.2 h]

/-! ## Letting time pass -/

section

variable (fresh : Octets)

lemma poll_of_awaitingHello (h : s.phase = .awaitingHello) :
    s.poll fresh now =
      if s.settings.handshakeTimeout ≤ now - s.since then
        s.failedAgain.expire fresh s.failedAgain.unreachableReport now
      else (s, []) := by
  simp [poll, h, failedAgain]

lemma poll_of_idle (h : s.phase = .authorized) (hidle : s.settings.udpTimeout ≤ s.idle now) :
    s.poll fresh now = s.expire fresh [] now := by
  rw [poll, h]
  exact if_pos hidle

lemma poll_of_owesPing (h : s.phase = .authorized) (hidle : s.idle now < s.settings.udpTimeout)
    (hdue : s.OwesPing now) : s.poll fresh now =
      ({ s with lastPing := some now }, [.transmit (.authorized (some s.key) s.peer .ping)]) := by
  obtain ⟨due, hping, hdue⟩ := hdue
  simp [poll, h, hidle.not_ge, Option.mem_def.1 hping, hdue, reply, frame?]

lemma poll_of_not_owesPing (h : s.phase = .authorized)
    (hidle : s.idle now < s.settings.udpTimeout) (hdue : ¬ s.OwesPing now) :
    s.poll fresh now = (s, []) := by
  cases hping : s.pingDue? with
  | none => simp [poll, h, hidle.not_ge, hping]
  | some due =>
    have hlater : ¬ due ≤ now := fun hle => hdue ⟨due, hping, hle⟩
    simp [poll, h, hidle.not_ge, hping, hlater]

lemma poll_of_other (hawaiting : s.phase ≠ .awaitingHello) (hauthorized : s.phase ≠ .authorized) :
    s.poll fresh now = (s, []) := by
  cases h : s.phase with
  | awaitingHello => exact absurd h hawaiting
  | authorized => exact absurd h hauthorized
  | unauthenticated | expired | closed => rw [poll, h]

lemma move_poll : s.Move now (.poll fresh) (s.poll fresh now).1 (s.poll fresh now).2 := by
  by_cases hawaiting : s.phase = .awaitingHello
  · rw [poll_of_awaitingHello fresh hawaiting]
    split
    · rename_i hdue
      rw [expire_eq, show s.failedAgain.phase = .awaitingHello from hawaiting]
      exact .timeOut hawaiting hdue
    · rename_i hdue
      exact .ignore ⟨fun _ => not_le.1 hdue, by simp [hawaiting]⟩
  by_cases hauthorized : s.phase = .authorized
  · by_cases hidle : s.settings.udpTimeout ≤ s.idle now
    · rw [poll_of_idle fresh hauthorized hidle, expire_eq, hauthorized]
      exact .fallSilent hauthorized hidle
    rw [not_le] at hidle
    by_cases hdue : s.OwesPing now
    · rw [poll_of_owesPing fresh hauthorized hidle hdue]
      exact .ping hauthorized hidle hdue
    · rw [poll_of_not_owesPing fresh hauthorized hidle hdue]
      exact .ignore ⟨by simp [hauthorized], fun _ => ⟨hidle, hdue⟩⟩
  · rw [poll_of_other fresh hawaiting hauthorized]
    exact .ignore ⟨fun h => absurd h hawaiting, fun h => absurd h hauthorized⟩

end

/-- **Something on the list comes of every call.** -/
theorem move_perform (call : SessionCall) :
    s.Move now call (s.perform now call).1 (s.perform now call).2 := by
  cases call with
  | start =>
    by_cases hphase : s.phase = .closed
    · rw [perform, Session.start, if_pos hphase]
      exact .ignore hphase
    · rw [perform, Session.start, if_neg hphase]
      exact .start hphase
  | handle package =>
    cases package with
    | hello payload =>
      by_cases hphase : s.phase = .awaitingHello
      · cases hsplit : splitHello? payload with
        | none =>
          have hpayload := splitHello?_eq_none_iff.1 hsplit
          rw [perform, Session.handle, handleHello_of_malformed hphase hpayload]
          exact .reject hphase hpayload
        | some greeting =>
          obtain ⟨hpeer, rfl⟩ := splitHello?_eq_some_iff.1 hsplit
          rw [perform, Session.handle, handleHello_of_notMem hphase hpeer]
          exact .welcome hphase hpeer
      · rw [perform, Session.handle, handleHello_of_ne hphase]
        exact .ignore hphase
    | authorized source destination content =>
      by_cases haccepts : s.accepts destination = true
      · rw [perform, Session.handle, handleAuthorized_of_accepts haccepts]
        exact .accept haccepts
      · rw [Bool.not_eq_true] at haccepts
        rw [perform, Session.handle, handleAuthorized_of_not_accepts haccepts]
        exact .ignore haccepts
  | poll fresh => exact move_poll fresh
  | frame content => exact .ignore trivial
  | close => exact .close

end Session

end SpaGateway
