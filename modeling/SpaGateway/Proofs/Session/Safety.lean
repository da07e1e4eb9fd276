import Mathlib.Tactic
import SpaGateway.Proofs.Session.Call

/-!
# Safety of sessions

Whatever its owner calls, in whatever order and at whatever times, a session's state is the one that
its history asks for: `Session.Follows` says which peer it is authorized with, which sequence number
comes next, and whether it is closed, and `Session.Move.follows` says that no call breaks this.

From that and the list of moves follows what every call of every run is bound to
(`Session.isSafe_run`): who may authorize the session and what is sent then, under which ids
packages leave, and that nothing leaves any more once the session was closed.
-/

namespace SpaGateway

namespace Session

variable {s s' : Session} {now : Nat} {call : SessionCall} {outputs : List SessionOutput}
  {history : List (Step Session Event)}

/-! ## Welcomes -/

lemma welcomes_concat (history : List (Step Session Event)) (s : Session) (event : Event) :
    welcomes (history ++ [⟨s, event⟩]) = welcomes history ++ (s.welcome? event.call).toList := by
  rw [welcomes, List.filterMap_append]
  cases hwelcome : s.welcome? event.call <;> simp [welcomes, hwelcome]

/-- A call that is no welcome adds none. -/
lemma welcomes_concat_of_none (history : List (Step Session Event))
    (h : s.welcome? call = none) :
    welcomes (history ++ [⟨s, ⟨now, call⟩⟩]) = welcomes history := by
  rw [welcomes_concat, h]
  exact List.append_nil _

/-! ## What the history asks for -/

/-- The state of a session is the one that its history asks for. -/
structure Follows (history : List (Step Session Event)) (s : Session) : Prop where
  phase_ne_expired : s.phase ≠ .expired
  /-- An authorized session speaks to the peer that welcomed it last. -/
  named : s.phase = .authorized → ∃ greeting ∈ (welcomes history).getLast?,
    s.peer = some greeting.1 ∧ s.deviceName = some greeting.2
  unnamed : s.phase ≠ .authorized → s.peer = none
  /-- Every welcome drew a sequence number. -/
  seq_eq : s.seq = (welcomes history).length.toUInt8
  closed_iff : s.phase = .closed ↔ ∃ step ∈ history, step.action.call = .close

lemma Follows.peer_isSome_iff (h : Follows history s) :
    s.peer.isSome ↔ s.phase = .authorized := by
  constructor
  · intro hsome
    by_contra hphase
    simp [h.unnamed hphase] at hsome
  · intro hphase
    obtain ⟨greeting, -, hpeer, -⟩ := h.named hphase
    simp [hpeer]

lemma follows_create (settings : SessionSettings) (key : Octets) (pinned : Bool) (made : Nat) :
    Follows [] (create settings key pinned made) where
  phase_ne_expired := by simp [create]
  named := by simp [create]
  unnamed := by simp [create]
  seq_eq := rfl
  closed_iff := by simp [create]

/-- A call that leaves phase, peer and counter alone, and is neither a welcome nor the end, keeps
what the history asks for. -/
lemma Follows.of_same (h : Follows history s) (hphase : s'.phase = s.phase)
    (hpeer : s'.peer = s.peer) (hname : s'.deviceName = s.deviceName) (hseq : s'.seq = s.seq)
    (hwelcome : s.welcome? call = none) (hclose : call ≠ .close) :
    Follows (history ++ [⟨s, ⟨now, call⟩⟩]) s' where
  phase_ne_expired := hphase ▸ h.phase_ne_expired
  named := by
    rw [hphase, hpeer, hname, welcomes_concat_of_none history hwelcome]
    exact h.named
  unnamed := by
    rw [hphase, hpeer]
    exact h.unnamed
  seq_eq := by
    rw [hseq, welcomes_concat_of_none history hwelcome]
    exact h.seq_eq
  closed_iff := by
    rw [hphase, h.closed_iff]
    simp [hclose]

/-- A new handshake drops the peer. -/
lemma Follows.introduced (h : Follows history s) (hphase : s.phase ≠ .closed)
    (hseq : s'.seq = s.seq) {key : Octets} (hwelcome : s.welcome? call = none)
    (hclose : call ≠ .close) :
    Follows (history ++ [⟨s, ⟨now, call⟩⟩]) (s'.introduced now key) where
  phase_ne_expired := by simp [Session.introduced]
  named := by simp [Session.introduced]
  unnamed _ := rfl
  seq_eq := by
    rw [welcomes_concat_of_none history hwelcome, ← h.seq_eq]
    exact hseq
  closed_iff := by
    have hopen := mt h.closed_iff.2 hphase
    simpa [Session.introduced, hclose] using hopen

/-- **No call breaks what the history asks for.** -/
theorem Move.follows (hmove : s.Move now call s' outputs) (h : Follows history s) :
    Follows (history ++ [⟨s, ⟨now, call⟩⟩]) s' := by
  cases hmove with
  | ignore hignores =>
    have hclose : call ≠ .close := by
      rintro rfl
      exact hignores
    exact h.of_same rfl rfl rfl rfl (welcome?_eq_none_of_ignores hignores) hclose
  | start hphase => exact h.introduced hphase rfl rfl (by simp)
  | @welcome peer name hphase hpeer =>
    have hwelcomes := welcomes_concat history s
      ⟨now, .handle (.hello (peer ++ helloDelimiter :: name))⟩
    rw [welcome?_eq_some_iff.2 ⟨hphase, hpeer, rfl⟩] at hwelcomes
    have hopen := mt h.closed_iff.2 (by simp [hphase])
    refine ⟨by simp [welcomed], fun _ => ?_, by simp [welcomed], ?_, ?_⟩
    · rw [hwelcomes]
      exact ⟨(peer, name), by simp, rfl, rfl⟩
    · rw [hwelcomes]
      simp [welcomed, h.seq_eq]
    · simpa [welcomed] using hopen
  | reject hphase hpayload =>
    exact h.of_same rfl rfl rfl rfl (welcome?_hello_eq_none hpayload) (by simp)
  | accept => exact h.of_same rfl rfl rfl rfl rfl (by simp)
  | timeOut hphase =>
    have hseq : s.failedAgain.seq = s.seq := rfl
    exact h.introduced (by simp [hphase]) hseq rfl (by simp)
  | fallSilent hphase => exact h.introduced (by simp [hphase]) rfl rfl (by simp)
  | ping => exact h.of_same rfl rfl rfl rfl rfl (by simp)
  | close =>
    refine ⟨by simp [Session.close], by simp [Session.close], fun _ => rfl, ?_, ?_⟩
    · rw [welcomes_concat_of_none history rfl]
      exact h.seq_eq
    · simp [Session.close]

/-! ## Whole runs -/

/-- After every run the state is the one that the history asks for. -/
theorem follows_run (settings : SessionSettings) (key : Octets) (pinned : Bool) (made : Nat)
    (past : List Event) :
    let s := create settings key pinned made
    Follows (s.history past) (past.foldl after s) := by
  intro s
  induction past using List.reverseRecOn with
  | nil => exact follows_create settings key pinned made
  | append_singleton past event ih =>
    rw [history_concat, List.foldl_append]
    exact (move_perform event.call).follows ih

/-! ## What a call may lead to -/

/-- Frames of an authorized session go out under its key and to its peer. -/
lemma of_frame?_authorized {source destination : Option Octets} {content content' : Content}
    (h : s.frame? content = some (.authorized source destination content')) :
    s.phase = .authorized ∧ source = some s.key ∧ destination = s.peer := by
  unfold frame? at h
  split at h
  · rename_i hphase
    obtain ⟨rfl, rfl, -⟩ := Package.authorized.inj (Option.some.inj h)
    exact ⟨hphase, rfl, rfl⟩
  · cases h

/-- Authorized packages leave an authorized session, under its key and for its peer. -/
lemma Move.of_authorized_mem (hmove : s.Move now call s' outputs)
    {source destination : Option Octets} {content : Content}
    (hmem : .transmit (.authorized source destination content) ∈ outputs) :
    s'.phase = .authorized ∧ source = some s'.key ∧ destination = s'.peer := by
  cases hmove with
  | ignore | close => cases hmem
  | start | reject => simp at hmem
  | welcome =>
    obtain ⟨rfl, rfl, -⟩ : source = _ ∧ destination = _ ∧ content = _ := by simpa using hmem
    exact ⟨rfl, rfl, rfl⟩
  | @accept _ _ received haccepts =>
    obtain ⟨hphase, -⟩ := accepts_eq_true_iff.1 haccepts
    cases received with
    | ping =>
      obtain ⟨rfl, rfl, -⟩ : source = _ ∧ destination = _ ∧ content = _ := by
        simpa [answer] using hmem
      exact ⟨hphase, rfl, rfl⟩
    | pong | data => simp [answer] at hmem
  | timeOut =>
    have hreport : .transmit (.authorized source destination content) ∉
        s.failedAgain.unreachableReport := by
      unfold unreachableReport
      split <;> simp
    simp [hreport] at hmem
  | fallSilent => simp at hmem
  | ping hphase =>
    obtain ⟨rfl, rfl, -⟩ : source = _ ∧ destination = _ ∧ content = _ := by simpa using hmem
    exact ⟨hphase, rfl, rfl⟩

lemma Move.authorized_iff (hmove : s.Move now call s' outputs) :
    s.phase ≠ .authorized ∧ s'.phase = .authorized ↔ s.phase = .awaitingHello ∧
      ∃ payload, helloDelimiter ∈ payload ∧ call = .handle (.hello payload) := by
  cases hmove with
  | ignore hignores =>
    constructor
    · rintro ⟨hphase, hphase'⟩
      exact absurd hphase' hphase
    · rintro ⟨hphase, payload, -, rfl⟩
      exact absurd hphase hignores
  | welcome hphase => simp [hphase, welcomed]
  | reject hphase hpayload => simp [hphase, hpayload]
  | start | timeOut | fallSilent => simp [introduced]
  | accept | ping => simp
  | close => simp [Session.close]

lemma Move.malformed_iff (hmove : s.Move now call s' outputs) (payload : Octets) :
    .event (.malformedHandshake payload) ∈ outputs ↔ s.phase = .awaitingHello ∧
      helloDelimiter ∉ payload ∧ call = .handle (.hello payload) := by
  cases hmove with
  | ignore hignores =>
    simp only [List.not_mem_nil, false_iff]
    rintro ⟨hphase, -, rfl⟩
    exact hignores hphase
  | @reject rejected hphase hpayload =>
    have hsame : payload = rejected ↔ helloDelimiter ∉ payload ∧
        SessionCall.handle (.hello rejected) = .handle (.hello payload) := by
      constructor
      · rintro rfl
        exact ⟨hpayload, rfl⟩
      · rintro ⟨-, hcall⟩
        simpa using hcall.symm
    simpa [hphase] using hsame
  | welcome hphase hpeer =>
    simp only [List.mem_cons, reduceCtorEq, SessionOutput.event.injEq, List.not_mem_nil, or_self,
      false_iff]
    rintro ⟨-, hpayload, hcall⟩
    simp only [SessionCall.handle.injEq, Package.hello.injEq] at hcall
    simp [← hcall] at hpayload
  | @accept _ _ content => cases content <;> simp [answer]
  | timeOut =>
    have hreport : .event (.malformedHandshake payload) ∉ s.failedAgain.unreachableReport := by
      unfold unreachableReport
      split <;> simp
    simp [hreport]
  | start | fallSilent | ping | close => simp

/-- A call that finds the session closed does nothing. -/
lemma Move.of_closed (hmove : s.Move now call s' outputs) (hphase : s.phase = .closed)
    (hpeer : s.peer = none) : s' = s ∧ outputs = [] := by
  cases hmove with
  | ignore => exact ⟨rfl, rfl⟩
  | close =>
    refine ⟨?_, rfl⟩
    rw [Session.close, ← hphase, ← hpeer]
  | start h => exact absurd hphase h
  | welcome h | reject h | timeOut h | fallSilent h | ping h => simp [h] at hphase
  | accept h => simp [(accepts_eq_true_iff.1 h).1] at hphase

lemma mem_packages {package : Package} {event : Event} : package ∈ s.packages event ↔
    .transmit package ∈ s.outputs event ∨
      ∃ content, event.call = .frame content ∧ s.frame? content = some package := by
  have hsent : package ∈ (s.outputs event).filterMap SessionOutput.package? ↔
      .transmit package ∈ s.outputs event := by
    rw [List.mem_filterMap]
    constructor
    · rintro ⟨output, hmem, houtput⟩
      cases output with
      | transmit => exact Option.some.inj houtput ▸ hmem
      | event => cases houtput
    · exact fun hmem => ⟨_, hmem, rfl⟩
  rw [packages, List.mem_append, hsent]
  cases event.call <;> simp

/-- Whatever authorized package a call gives back comes from an authorized session, under its key
and for its peer. -/
lemma of_authorized_mem_packages {event : Event} {source destination : Option Octets}
    {content : Content} (hmem : .authorized source destination content ∈ s.packages event) :
    (s.after event).phase = .authorized ∧ source = some (s.after event).key ∧
      destination = (s.after event).peer := by
  rcases mem_packages.1 hmem with hsent | ⟨wrapped, hcall, hframe⟩
  · exact (move_perform event.call).of_authorized_mem hsent
  · have hsame : s.after event = s := by rw [after, hcall, perform]
    rw [hsame]
    exact of_frame?_authorized hframe

lemma handle_hello_of_malformed {payload : Octets} (hpayload : helloDelimiter ∉ payload) :
    (s.handle (.hello payload) now).1 = s ∧ (s.handle (.hello payload) now).2 =
      if s.phase = .awaitingHello then [.event (.malformedHandshake payload)] else [] := by
  rw [Session.handle]
  split
  · rw [handleHello_of_malformed ‹_› hpayload]
    exact ⟨rfl, rfl⟩
  · rw [handleHello_of_ne ‹_›]
    exact ⟨rfl, rfl⟩

lemma nextDeadline?_of_closed (h : s.phase = .closed) : s.nextDeadline? = none := by
  rw [nextDeadline?, deadlines, h]
  rfl

lemma packages_eq_nil_of_closed {event : Event} (h : s.phase = .closed)
    (houtputs : s.outputs event = []) : s.packages event = [] := by
  rw [List.eq_nil_iff_forall_not_mem]
  intro package hmem
  rcases mem_packages.1 hmem with hsent | ⟨content, -, hframe⟩
  · simp [houtputs] at hsent
  · simp [frame?, h] at hframe

/-- What a session is bound to when it is called, whatever has happened before. -/
structure IsSafe (history : List (Step Session Event)) (s : Session) (event : Event) : Prop where
  phase_ne_expired : s.phase ≠ .expired
  /-- The peer is known exactly while the session is authorized. -/
  peer_isSome_iff : s.peer.isSome ↔ s.phase = .authorized
  /-- A session becomes authorized exactly if it awaits an answer to its hello and gets a hello with
  a delimiter. -/
  authorized_iff : s.phase ≠ .authorized ∧ (s.after event).phase = .authorized ↔
    s.phase = .awaitingHello ∧
      ∃ payload, helloDelimiter ∈ payload ∧ event.call = .handle (.hello payload)
  /-- The first delimiter parts the peer from its name.  The authorization is told and the peer is
  asked for its versions, under the number of authorizations before this one. -/
  welcome : s.phase = .awaitingHello → ∀ peer name, helloDelimiter ∉ peer →
    event.call = .handle (.hello (peer ++ helloDelimiter :: name)) →
      (s.after event).peer = some peer ∧ (s.after event).deviceName = some name ∧
        s.outputs event = [.event (.authorized peer name),
          .transmit (.authorized (some s.key) (some peer)
            (.data (Payload.versionQuery (welcomes history).length.toUInt8).compose))]
  /-- Authorized packages come from an authorized session only, under its key and for the peer that
  welcomed it last. -/
  package : ∀ source destination content,
    .authorized source destination content ∈ s.packages event →
      (s.after event).phase = .authorized ∧ source = some (s.after event).key ∧
        ∃ greeting ∈ (welcomes (history ++ [⟨s, event⟩])).getLast?, destination = some greeting.1
  /-- A hello without delimiter changes nothing.  It is reported if the session awaits a hello. -/
  malformed : ∀ payload, helloDelimiter ∉ payload → event.call = .handle (.hello payload) →
    s.after event = s ∧ s.outputs event =
      if s.phase = .awaitingHello then [.event (.malformedHandshake payload)] else []
  /-- Nothing else is reported as malformed. -/
  malformed_iff : ∀ payload, .event (.malformedHandshake payload) ∈ s.outputs event ↔
    s.phase = .awaitingHello ∧ helloDelimiter ∉ payload ∧ event.call = .handle (.hello payload)
  /-- A session that was closed stays so, and nothing comes of any call. -/
  closed : (∃ step ∈ history, step.action.call = .close) →
    s.phase = .closed ∧ s.nextDeadline? = none ∧ s.after event = s ∧ s.outputs event = [] ∧
      s.packages event = []

/-- **Sessions are safe over whole runs.** -/
theorem isSafe_run (settings : SessionSettings) (key : Octets) (pinned : Bool) (made : Nat)
    (past : List Event) (event : Event) :
    let s := create settings key pinned made
    IsSafe (s.history past) (past.foldl after s) event := by
  intro created
  have hfollows := follows_run settings key pinned made past
  change Follows (created.history past) (past.foldl after created) at hfollows
  generalize created.history past = history, past.foldl after created = s at hfollows ⊢
  have hmove : s.Move event.now event.call (s.after event) (s.outputs event) :=
    move_perform event.call
  have hnext : Follows (history ++ [⟨s, event⟩]) (s.after event) := hmove.follows hfollows
  refine ⟨hfollows.phase_ne_expired, hfollows.peer_isSome_iff, hmove.authorized_iff, ?_, ?_, ?_,
    hmove.malformed_iff, ?_⟩
  · -- a welcome
    intro hphase peer name hpeer hcall
    rw [after, Session.outputs, hcall, perform, Session.handle,
      handleHello_of_notMem hphase hpeer, ← hfollows.seq_eq]
    exact ⟨rfl, rfl, rfl⟩
  · -- a package
    intro source destination content hmem
    obtain ⟨hphase, hsource, hdestination⟩ := of_authorized_mem_packages hmem
    obtain ⟨greeting, hlast, hpeer, -⟩ := hnext.named hphase
    exact ⟨hphase, hsource, greeting, hlast, hdestination.trans hpeer⟩
  · -- a hello without delimiter
    intro payload hpayload hcall
    rw [after, Session.outputs, hcall]
    exact handle_hello_of_malformed hpayload
  · -- a closed session
    intro hclosed
    have hphase := hfollows.closed_iff.2 hclosed
    obtain ⟨hsame, hnone⟩ := hmove.of_closed hphase (hfollows.unnamed (by simp [hphase]))
    exact ⟨hphase, nextDeadline?_of_closed hphase, hsame, hnone,
      packages_eq_nil_of_closed hphase hnone⟩

/-- A session that is started over is authorized under the next number, by a peer whose name may
hold delimiters. -/
example :
    let s := [⟨0, .start⟩, ⟨1, .handle (.hello [0x61, 0x7c, 0x62])⟩, ⟨2, .start⟩].foldl after
      (create {} [0x6b] true 0)
    s.outputs ⟨3, .handle (.hello [0x63, 0x7c, 0x7c])⟩ = [.event (.authorized [0x63] [0x7c]),
      .transmit (.authorized (some [0x6b]) (some [0x63])
        (.data (Payload.versionQuery 1).compose))] := by
  decide

end Session

end SpaGateway
