import Mathlib.Tactic
import SpaGateway.Proofs.Relay.Upkeep

/-!
# Whose session an id is

The gateway's own session gets an id by the rule that holds for controller apps: it speaks to the
spa under it.  The rule is the same for taking an id away.  An app that speaks under the id of the
gateway gets what the spa sends there from then on, until the gateway speaks again.

`Relay.own_session_iff` says that nothing else an app sends can do that.  What the spa sends to the
id that the gateway used last comes to the local link, and to no app, exactly if no app spoke under
that id since and no sweep gave it up; and it says how long sweeps leave it alone.
-/

namespace SpaGateway

open ForwardTable (Operation)

namespace Relay

variable {r : Relay} {id : Octets}

/-- Whether an app speaks to the spa under an id. -/
def SpeaksAs (r : Relay) (input : RelayInput) (id : Octets) : Prop :=
  r.hasClients = true ∧ ∃ sender datagram content, input = .clientSocket sender datagram ∧
    Frame.decodeDatagram datagram = .ok (.authorized (some id) (some r.spaId) content)

/-- Whether the spa addresses an id. -/
def Addresses (r : Relay) (input : RelayInput) (id : Octets) : Prop :=
  ∃ content, r.addressed? input = some (id, content)

lemma accepted?_eq_some_iff {datagram source : Octets} {content : Content} :
    r.accepted? datagram = some (source, content) ↔
      Frame.decodeDatagram datagram = .ok (.authorized (some source) (some r.spaId) content) := by
  unfold accepted?
  split
  · rename_i hdecode
    rw [hdecode]
    split <;> simp_all
  · rename_i hnot
    simp only [reduceCtorEq, false_iff]
    exact fun hdecode => hnot _ _ _ hdecode

/-- Without the gateway, those who speak are apps. -/
lemma exists_speaker_iff {input : RelayInput} (hlocal : ∀ package, input ≠ .localLink package) :
    (∃ speaker ∈ r.speaker? input, speaker.1 = .gateway ∨ speaker.2 = id) ↔
      r.SpeaksAs input id := by
  cases input with
  | clientSocket sender datagram =>
    have haccepted : (∃ content, r.accepted? datagram = some (id, content)) ↔
        ∃ content, Frame.decodeDatagram datagram =
          .ok (.authorized (some id) (some r.spaId) content) := by
      simp only [accepted?_eq_some_iff]
    by_cases hclients : r.hasClients = true
    · simpa [SpeaksAs, speaker?, hclients] using haccepted
    · simp [SpeaksAs, speaker?, hclients]
  | localLink package => exact (hlocal package rfl).elim
  | spaSocket | localTaken | localDropped | sweep => simp [SpeaksAs, speaker?]

lemma speaker?_ne_gateway {input : RelayInput} (hlocal : ∀ package, input ≠ .localLink package) :
    r.speaker? input ≠ some (.gateway, id) := by
  intro hspeaker
  cases input with
  | clientSocket sender datagram => simp [speaker?] at hspeaker
  | localLink package => exact hlocal package rfl
  | spaSocket | localTaken | localDropped | sweep => cases hspeaker

lemma exists_addressed_of_answers {now : Nat} {input : RelayInput} {operation : Operation}
    (hoperation : r.operation? now input = some operation) (hanswers : operation.Answers id) :
    r.Addresses input id := by
  unfold operation? at hoperation
  split at hoperation
  · obtain rfl := Option.some.inj hoperation
    exact hanswers.elim
  · split at hoperation
    · obtain rfl := Option.some.inj hoperation
      exact hanswers.elim
    · obtain ⟨⟨destination, content⟩, haddressed, rfl⟩ := Option.map_eq_some_iff.1 hoperation
      obtain rfl : destination = id := hanswers
      exact ⟨content, haddressed⟩

/-! ## How long a mapping stays -/

/-- A sweep gives up a mapping a handshake timeout after its last forward at the earliest, or a udp
timeout after it if the spa answered. -/
lemma le_of_mem_swept (h : r.forwards.IsOneToOne) {peer : Peer} {now : Nat} {input : RelayInput}
    (hswept : (id, peer) ∈ r.swept now input) :
    ∃ entry, r.forwards.byId.get? id = some entry ∧
      (entry.lastForward + r.handshakeTimeout ≤ now ∨
        entry.lastForward + r.udpTimeout ≤ now ∧ entry.lastReply ≠ none) := by
  cases input with
  | sweep =>
    obtain ⟨entry, hget, -, hdue⟩ := h.exists_of_mem_reported_sweep hswept
    refine ⟨entry, hget, ?_⟩
    rw [Forward.expiresAt] at hdue
    cases hreply : entry.lastReply with
    | none =>
      rw [hreply] at hdue
      exact .inl hdue
    | some reply =>
      rw [hreply] at hdue
      exact .inr ⟨(Nat.add_le_add_right (le_max_right reply _) _).trans hdue, by simp⟩
  | spaSocket | clientSocket | localLink | localTaken | localDropped => cases hswept

/-- Who speaks is mapped with this as the last forward. -/
lemma lastForward_handle (h : r.forwards.IsOneToOne) {event : Event} {peer : Peer}
    (hspeaker : r.speaker? event.input = some (peer, id)) {entry : Forward}
    (hget : (handle r event).forwards.byId.get? id = some entry) :
    entry.lastForward = event.now := by
  have hoperation : r.operation? event.now event.input = some (.insert peer id event.now) := by
    unfold operation?
    split
    · rename_i hinput
      rw [hinput] at hspeaker
      cases hspeaker
    · rw [hspeaker]
  rw [forwards_handle, tended, hoperation, Option.elim_some, ForwardTable.perform, h.get?_insert,
    if_pos rfl, Option.some.injEq] at hget
  rw [← hget]

section

variable (h : r.forwards.IsOneToOne) {events : List Event}

include h

/-- What holds of the entry of an id, and stays so with whatever is done to the table, holds of it
at the end of a run. -/
lemma entry_foldl_handle {P : Forward → Prop}
    (hkeeps : ∀ step ∈ r.history events, ∀ operation,
      step.before.operation? step.action.now step.action.input = some operation →
      step.before.forwards.IsOneToOne →
      (∀ entry, step.before.forwards.byId.get? id = some entry → P entry) →
      ∀ entry, (step.before.forwards.perform operation).byId.get? id = some entry → P entry)
    (hr : ∀ entry, r.forwards.byId.get? id = some entry → P entry) :
    ∀ entry, (events.foldl handle r).forwards.byId.get? id = some entry → P entry := by
  let Keeps (s : Relay) : Prop := s.forwards.IsOneToOne ∧
    ∀ entry, s.forwards.byId.get? id = some entry → P entry
  have hstep (step : Step Relay Event) (hmem : step ∈ r.history events)
      (hbefore : Keeps step.before) :
      Keeps (handle step.before step.action) := by
    refine ⟨(reaction_react hbefore.1 step.action.now step.action.input).isOneToOne, ?_⟩
    rw [forwards_handle, tended]
    cases hoperation : step.before.operation? step.action.now step.action.input with
    | none => exact hbefore.2
    | some operation => exact hkeeps step hmem operation hoperation hbefore.1 hbefore.2
  have hrun : Keeps (events.foldl handle r) := (keeps_of_mem_steps ⟨h, hr⟩ hstep).1
  exact hrun.2

/-- The last forward is not put back. -/
lemma le_lastForward_foldl_handle {since : Nat} (hevents : ∀ event ∈ events, since ≤ event.now)
    (hr : ∀ entry, r.forwards.byId.get? id = some entry → since ≤ entry.lastForward) :
    ∀ entry, (events.foldl handle r).forwards.byId.get? id = some entry →
      since ≤ entry.lastForward := by
  refine entry_foldl_handle h (fun step hmem operation hoperation hone hbefore entry hget => ?_) hr
  have hsince : since ≤ operation.now :=
    now_of_operation? hoperation ▸ hevents step.action (action_mem_of_mem_steps hmem)
  exact hone.le_lastForward_of_perform hsince hbefore hget

/-- Without a reply of the spa none is noted. -/
lemma lastReply_foldl_handle
    (hsilent : ∀ step ∈ r.history events, ¬ step.before.Addresses step.action.input id)
    (hr : ∀ entry, r.forwards.byId.get? id = some entry → entry.lastReply = none) :
    ∀ entry, (events.foldl handle r).forwards.byId.get? id = some entry →
      entry.lastReply = none := by
  refine entry_foldl_handle h (fun step hmem operation hoperation hone hbefore entry hget => ?_) hr
  rcases hone.of_get?_perform hget with
    hsame | ⟨-, hnone | ⟨old, hold, hreply⟩⟩ | ⟨hanswers, -⟩
  · exact hbefore entry hsame
  · exact hnone
  · exact hreply.trans (hbefore old hold)
  · exact (hsilent step hmem (exists_addressed_of_answers hoperation hanswers)).elim

end

/-! ## The id of the gateway -/

lemma hasClients_of_speaker? {input : RelayInput} {address : SocketAddress}
    (hspeaker : r.speaker? input = some (.client address, id)) : r.hasClients = true := by
  unfold speaker? at hspeaker
  split at hspeaker
  · split at hspeaker
    · assumption
    · cases hspeaker
  · cases hspeaker
  · cases hspeaker
  · cases hspeaker

/-- Ids belong to apps only if there are apps. -/
lemma hasClients_foldl_handle (hforwards : r.forwards = {}) (events : List Event)
    {address : SocketAddress}
    (hmapped : (events.foldl handle r).forwards.peer? id = some (.client address)) :
    (events.foldl handle r).hasClients = true := by
  let HasApps (s : Relay) : Prop := s.forwards.IsOneToOne ∧
    ∀ address, s.forwards.peer? id = some (.client address) → s.hasClients = true
  have hstep (s : Relay) (event : Event) (hs : HasApps s) : HasApps (handle s event) := by
    have hreaction := reaction_react hs.1 event.now event.input
    refine ⟨hreaction.isOneToOne, fun address hafter => hreaction.hasClients_eq.trans ?_⟩
    rcases (hreaction.maps_iff id (.client address)).1 hafter with hspeaker | ⟨hbefore, -⟩
    · exact hasClients_of_speaker? hspeaker
    · exact hs.2 address hbefore
  have hnew : HasApps r := by
    refine ⟨?_, fun address hmapped => ?_⟩
    · rw [hforwards]
      exact ForwardTable.isOneToOne_empty
    · simp [hforwards, ForwardTable.peer?, Index.get?] at hmapped
  exact (keeps_foldl hstep hnew events).2 address hmapped

lemma IsReachable.hasClients (h : r.IsReachable) {address : SocketAddress}
    (hmapped : r.forwards.peer? id = some (.client address)) : r.hasClients = true := by
  obtain ⟨config, spa, hello, hasLocal, hasClients, events, rfl⟩ := h
  exact hasClients_foldl_handle rfl events hmapped

/-- What the spa sends to an id comes to the local link, and to no app, exactly if the id is the
gateway's. -/
lemma delivered_iff (h : r.forwards.IsOneToOne)
    (hclients : ∀ address, r.forwards.peer? id = some (.client address) → r.hasClients = true)
    {queued : Nat} (hqueued : r.localQueued = some queued) (hroom : queued < localCapacity)
    {datagram : Octets} {source : Option Octets} {content : Content}
    (hdecode : Frame.decodeDatagram datagram = .ok (.authorized source (some id) content))
    (now : Nat) :
    let sent := (r.react now (.spaSocket r.spa datagram)).2
    (.toLocal (.authorized source (some id) content) ∈ sent ∧
        ∀ address x, .toClient address x ∉ sent) ↔
      r.forwards.peer? id = some .gateway := by
  intro sent
  have hsent := r.effects_react_authorized hdecode now
  rcases hpeer : r.forwards.peer? id with _ | _ | address
  · simp [sent, hsent, hpeer, route]
  · simp [sent, hsent, hpeer, route, deliverLocal, hqueued, hroom]
  · have hpassed : .toClient address datagram ∈ sent := by
      rw [toClient_mem_iff, (reaction_react h now (.spaSocket r.spa datagram)).toClient_eq,
        List.mem_append, Option.mem_toList, Option.mem_toList, forClient?_eq_some_iff]
      exact .inr ⟨hclients address hpeer, rfl, source, id, content, hdecode, hpeer⟩
    constructor
    · rintro ⟨-, hnone⟩
      exact (hnone address datagram hpassed).elim
    · intro hgateway
      cases hgateway

/-- While the gateway is silent, its id stays its own exactly if no app speaks under it and no sweep
gives it up. -/
lemma keeps_gateway_iff (h : r.forwards.IsOneToOne) (hmapped : r.forwards.peer? id = some .gateway)
    {events : List Event}
    (hlocal : ∀ event ∈ events, ∀ package, event.input ≠ .localLink package) :
    (events.foldl handle r).forwards.peer? id = some .gateway ↔ ∀ step ∈ r.history events,
      ¬ step.before.SpeaksAs step.action.input id ∧
        (id, .gateway) ∉ step.before.swept step.action.now step.action.input := by
  simp only [← not_or]
  refine keeps_foldl_iff (P := fun s : Relay => s.forwards.peer? id = some .gateway) hmapped
    fun step hmem => ?_
  have hsilent := hlocal step.action (action_mem_of_mem_steps hmem)
  have hmaps := (reaction_of_mem_history h hmem).maps_iff id .gateway
  rw [exists_speaker_iff hsilent] at hmaps
  exact hmaps.trans (or_iff_right (speaker?_ne_gateway hsilent))

/-- A sweep gives the id of the gateway up a handshake timeout after the gateway spoke at the
earliest, or a udp timeout after that if the spa has addressed the id. -/
lemma le_of_mem_swept_run (hnew : r.forwards = {}) {earlier later : List Event} {spoke : Event}
    {peer : Peer} (hspoke : (earlier.foldl handle r).speaker? spoke.input = some (peer, id))
    (hlater : ∀ event ∈ later, spoke.now ≤ event.now) {now : Nat} {input : RelayInput}
    (hswept : (id, peer) ∈ ((earlier ++ spoke :: later).foldl handle r).swept now input) :
    spoke.now + r.handshakeTimeout ≤ now ∨ spoke.now + r.udpTimeout ≤ now ∧
      ∃ step ∈ r.history (earlier ++ spoke :: later),
        step.before.Addresses step.action.input id := by
  have hone : r.forwards.IsOneToOne := hnew ▸ ForwardTable.isOneToOne_empty
  have hfirst := (invariant_foldl_handle hone earlier).1
  have hspoken := (reaction_react hfirst spoke.now spoke.input).isOneToOne
  obtain ⟨entry, hget, hdue⟩ := le_of_mem_swept (invariant_foldl_handle hone _).1 hswept
  obtain ⟨hhandshake, hudp⟩ := r.timeouts_foldl_handle (earlier ++ spoke :: later)
  rw [hhandshake, hudp] at hdue
  have hsince : spoke.now ≤ entry.lastForward := by
    rw [List.foldl_append, List.foldl_cons] at hget
    exact le_lastForward_foldl_handle hspoken hlater
      (fun entry hget => (lastForward_handle hfirst hspoke hget).ge) entry hget
  rcases hdue with hdue | ⟨hdue, hreply⟩
  · exact .inl ((Nat.add_le_add_right hsince _).trans hdue)
  · refine .inr ⟨(Nat.add_le_add_right hsince _).trans hdue, ?_⟩
    by_contra hsilent
    refine hreply (lastReply_foldl_handle hone (fun step hmem haddresses => ?_)
      (fun entry hget => ?_) entry hget)
    · exact hsilent ⟨step, hmem, haddresses⟩
    · simp [hnew, Index.get?] at hget

/-- **Whose the id of the gateway is.**  In a run of a relay the local link speaks to the spa under
an id and does not speak again.  What the spa then sends to that id comes to the local link, and to
no app, exactly if since then no app spoke under the id and no sweep gave it up.  A sweep gives it
up a handshake timeout after the local link spoke at the earliest, or a udp timeout after that once
the spa has addressed the id. -/
theorem own_session_iff (config : GatewayConfig) (spa : SocketAddress) (hello : Octets)
    (hasLocal hasClients : Bool) (earlier later : List Event) (since : Nat) (package : Package)
    (key : Octets) :
    let bound := create config spa hello hasLocal hasClients
    let spoke : Event := ⟨since, .localLink package⟩
    let spoken := handle (earlier.foldl handle bound) spoke
    let r := later.foldl handle spoken
    (earlier.foldl handle bound).speaker? spoke.input = some (.gateway, key) →
    (∀ event ∈ later, since ≤ event.now ∧ ∀ other, event.input ≠ .localLink other) →
    (∀ queued source content datagram now, r.localQueued = some queued → queued < localCapacity →
      Frame.decodeDatagram datagram = .ok (.authorized source (some key) content) →
      let sent := (r.react now (.spaSocket spa datagram)).2
      (.toLocal (.authorized source (some key) content) ∈ sent ∧
          ∀ address x, .toClient address x ∉ sent) ↔
        ∀ step ∈ spoken.history later, ¬ step.before.SpeaksAs step.action.input key ∧
          (key, .gateway) ∉ step.before.swept step.action.now step.action.input) ∧
    ∀ step ∈ spoken.history later,
      (key, .gateway) ∈ step.before.swept step.action.now step.action.input →
      since + config.handshakeTimeout * GatewayConfig.second ≤ step.action.now ∨
        since + config.udpTimeout * GatewayConfig.second ≤ step.action.now ∧
          ∃ answered ∈ bound.history (earlier ++ spoke :: later),
            answered.before.Addresses answered.action.input key := by
  intro bound spoke spoken r hspoke hlater
  set first := earlier.foldl handle bound
  have hnew : bound.forwards = {} := rfl
  have hone : bound.forwards.IsOneToOne := ForwardTable.isOneToOne_empty
  have hreaction := reaction_react (invariant_foldl_handle hone earlier).1 since spoke.input
  have hspoken : spoken.forwards.IsOneToOne := hreaction.isOneToOne
  constructor
  · intro queued source content datagram now hqueued hroom hdecode
    have hrun : (earlier ++ spoke :: later).foldl handle bound = r := List.foldl_append
    have hr : r.forwards.IsOneToOne := (invariant_foldl_handle hspoken later).1
    have hspa : r.spa = spa := hrun ▸ (bound.hello_foldl_handle (earlier ++ spoke :: later)).1
    have hclients (address : SocketAddress)
        (hmapped : r.forwards.peer? key = some (.client address)) : r.hasClients = true := by
      rw [← hrun] at hmapped ⊢
      exact hasClients_foldl_handle hnew _ hmapped
    have hdelivered := delivered_iff hr hclients hqueued hroom hdecode now
    rw [hspa] at hdelivered
    have hmapped : spoken.forwards.peer? key = some .gateway :=
      (hreaction.maps_iff key .gateway).2 (.inl hspoke)
    exact hdelivered.trans (keeps_gateway_iff hspoken hmapped fun event he => (hlater event he).2)
  · intro step hmem hswept
    obtain ⟨past, rest, rfl, hbefore⟩ := exists_of_mem_steps hmem
    have hrun : (earlier ++ spoke :: past).foldl handle bound = step.before :=
      List.foldl_append.trans hbefore.symm
    rw [← hrun] at hswept
    rcases le_of_mem_swept_run hnew hspoke
        (fun event he => (hlater event (List.mem_append_left _ he)).1) hswept with
      hdue | ⟨hdue, answered, hanswered, haddresses⟩
    · exact .inl hdue
    · refine .inr ⟨hdue, answered, ?_, haddresses⟩
      rw [← List.cons_append, ← List.append_assoc, history, steps_append]
      exact List.mem_append_left _ hanswered

/-- An app speaks under another id than the gateway, and the answer comes to the local link. -/
theorem own_session_kept :
    let spa : SocketAddress := .v4 ⟨10, 0, 0, 1⟩ 10022
    let app : SocketAddress := .v4 ⟨10, 0, 0, 2⟩ 20000
    let bound := create {} spa [0x53, 0x7c] true true
    let past : List Event := [⟨0, .localLink (.authorized (some [0x6b]) (some [0x53]) .ping)⟩,
      ⟨1, .clientSocket app (Frame.encode (.authorized (some [0x62]) (some [0x53]) .ping))⟩]
    let answer : Package := .authorized (some [0x53]) (some [0x6b]) .pong
    let sent := ((past.foldl handle bound).react 2 (.spaSocket spa (Frame.encode answer))).2
    .toLocal answer ∈ sent ∧ ∀ address x, .toClient address x ∉ sent := by
  intro spa app bound past answer sent
  have hwhose := own_session_iff {} spa [0x53, 0x7c] true true []
    [⟨1, .clientSocket app (Frame.encode (.authorized (some [0x62]) (some [0x53]) .ping))⟩] 0
    (.authorized (some [0x6b]) (some [0x53]) .ping) [0x6b] rfl (by simp)
  refine (hwhose.1 0 (some [0x53]) .pong (Frame.encode answer) 2 rfl (by decide) rfl).2
    fun step hmem => ?_
  obtain rfl := List.mem_singleton.1 hmem
  refine ⟨?_, by decide⟩
  rintro ⟨-, sender, datagram, content, hinput, hdecode⟩
  obtain ⟨rfl, rfl⟩ := RelayInput.clientSocket.inj hinput
  cases hdecode

/-- An app speaks under the id of the gateway and gets the answer, a moment after the gateway spoke.
Where the udp timeout is the shorter one, an answered gateway is forgotten before the handshake
timeout is over, and the next package for it is lost. -/
theorem own_session_lost :
    let spa : SocketAddress := .v4 ⟨10, 0, 0, 1⟩ 10022
    let app : SocketAddress := .v4 ⟨10, 0, 0, 2⟩ 20000
    let package : Package := .authorized (some [0x6b]) (some [0x53]) .ping
    let answer := Frame.encode (.authorized (some [0x53]) (some [0x6b]) .pong)
    let taken := [⟨0, .localLink package⟩, ⟨1, .clientSocket app (Frame.encode package)⟩].foldl
      handle (create {} spa [0x53, 0x7c] true true)
    let swept := [⟨0, .localLink package⟩, ⟨0, .spaSocket spa answer⟩, ⟨5000, .sweep⟩].foldl
      handle (create { udpTimeout := 5 } spa [0x53, 0x7c] true true)
    (taken.localQueued = some 0 ∧ 2 < taken.handshakeTimeout ∧
      (taken.react 2 (.spaSocket spa answer)).2 =
        [.record (.toPeer (.client app)) .pong, .toClient app answer]) ∧
      swept.localQueued = some 1 ∧ 6000 < swept.handshakeTimeout ∧
      (swept.react 6000 (.spaSocket spa answer)).2 = [] := by
  decide +kernel

end Relay

end SpaGateway
