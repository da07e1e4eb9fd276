import Mathlib.Tactic
import SpaGateway.Proofs.Forward.History
import SpaGateway.Relay

/-!
# What a relay passes on

Packages pass a relay in two directions.  `Relay.upstream?` and `Relay.downstream?` read off an
input what should pass because of it, without any of the relay's machinery: a frame of a controller
app that names the spa, or a package of the local link, goes to the spa, and a package of the spa
goes to the peer that its destination is mapped to.  The lemmas of this module say that a reaction
sends, reports and maps exactly accordingly (`Relay.reaction_react`).
-/

namespace SpaGateway

namespace RelayEffect

/-- The datagram for a controller app, if this was one. -/
def toClient? : RelayEffect → Option (SocketAddress × Octets)
  | toClient address datagram => some (address, datagram)
  | _ => none

/-- The datagram for the spa, if this was one. -/
def toSpa? : RelayEffect → Option Octets
  | toSpa datagram => some datagram
  | _ => none

/-- What was reported of the traffic, if this was a report. -/
def record? : RelayEffect → Option (Traffic × Content)
  | record traffic content => some (traffic, content)
  | _ => none

end RelayEffect

/-- The datagram that came with an input. -/
def RelayInput.datagram : RelayInput → Octets
  | spaSocket _ datagram | clientSocket _ datagram => datagram
  | _ => []

namespace Relay

/-! ## What should pass -/

/-- The source and the content of a frame of a controller app that names the spa. -/
def accepted? (r : Relay) (datagram : Octets) : Option (Octets × Content) :=
  match Frame.decodeDatagram datagram with
  | .ok (.authorized (some source) (some destination) content) =>
    if destination = r.spaId then some (source, content) else none
  | _ => none

/-- A package on its way: the peer at the other end than the spa, what the package holds, and the
datagram that carries it. -/
structure Passage where
  peer : Peer
  content : Content
  datagram : Octets

/-- What goes to the spa because of an input. -/
def upstream? (r : Relay) : RelayInput → Option Passage
  | .clientSocket sender datagram =>
    if r.hasClients then
      (r.accepted? datagram).map fun (_, content) => ⟨.client sender, content, datagram⟩
    else none
  | .localLink (.authorized (some source) destination content) =>
    some ⟨.gateway, content, Frame.encode (.authorized (some source) destination content)⟩
  | _ => none

/-- The destination and the content of a package of the spa. -/
def addressed? (r : Relay) : RelayInput → Option (Octets × Content)
  | .spaSocket sender datagram =>
    if sender = r.spa then
      match Frame.decodeDatagram datagram with
      | .ok (.authorized _ (some destination) content) => some (destination, content)
      | _ => none
    else none
  | _ => none

/-- What comes from the spa because of an input. -/
def downstream? (r : Relay) (input : RelayInput) : Option Passage :=
  (r.addressed? input).bind fun (destination, content) =>
    (r.forwards.peer? destination).map fun peer => ⟨peer, content, input.datagram⟩

/-- The datagram that a controller app gets of what comes from the spa. -/
def forClient? (r : Relay) (passage : Passage) : Option (SocketAddress × Octets) :=
  match passage.peer with
  | .client address => if r.hasClients then some (address, passage.datagram) else none
  | .gateway => none

/-- The hello that answers an input, and who gets it. -/
def greeting? (r : Relay) : RelayInput → Option (SocketAddress × Octets)
  | .clientSocket sender datagram =>
    if r.hasClients then
      match Frame.decodeDatagram datagram with
      | .ok (.hello _) => some (sender, Frame.encode (.hello r.hello))
      | _ => none
    else none
  | _ => none

/-- Who speaks to the spa with an input, and under which id. -/
def speaker? (r : Relay) : RelayInput → Option (Peer × Octets)
  | .clientSocket sender datagram =>
    if r.hasClients then (r.accepted? datagram).map fun (source, _) => (.client sender, source)
    else none
  | .localLink (.hello key) => some (.gateway, key)
  | .localLink (.authorized (some source) _ _) => some (.gateway, source)
  | _ => none

/-- The mappings that an input makes the relay give up. -/
def swept (r : Relay) (now : Nat) : RelayInput → List (Octets × Peer)
  | .sweep => r.forwards.reported (.sweep now r.handshakeTimeout r.udpTimeout)
  | _ => []

/-! ## What a reaction does -/

/-- What a relay does with an input: which ids are mapped afterwards, what it sends to whom, and
what it reports. -/
structure Reaction (r : Relay) (now : Nat) (input : RelayInput) (after : Relay)
    (effects : List RelayEffect) : Prop where
  hasClients_eq : after.hasClients = r.hasClients
  isOneToOne : after.forwards.IsOneToOne
  maps_iff : ∀ id peer, after.forwards.peer? id = some peer ↔
    r.speaker? input = some (peer, id) ∨ r.forwards.peer? id = some peer ∧
      ¬ ((∃ speaker ∈ r.speaker? input, speaker.1 = peer ∨ speaker.2 = id) ∨
        (id, peer) ∈ r.swept now input)
  toClient_eq : effects.filterMap RelayEffect.toClient? =
    (r.greeting? input).toList ++ ((r.downstream? input).bind r.forClient?).toList
  toSpa_eq : effects.filterMap RelayEffect.toSpa? =
    ((r.upstream? input).map Passage.datagram).toList
  record_eq : effects.filterMap RelayEffect.record? =
    ((r.upstream? input).map fun p => (Traffic.fromPeer p.peer, p.content)).toList ++
      ((r.downstream? input).map fun p => (Traffic.toPeer p.peer, p.content)).toList

/-- Queueing for the local link concerns neither the mappings nor the sockets. -/
lemma deliverLocal_spec (r : Relay) (package : Package) :
    (∃ localQueued, (r.deliverLocal package).1 = { r with localQueued }) ∧
      ((r.deliverLocal package).2 = [] ∨ (r.deliverLocal package).2 = [.toLocal package]) := by
  unfold deliverLocal
  split
  · exact ⟨⟨_, rfl⟩, .inl rfl⟩
  · split
    · exact ⟨⟨_, rfl⟩, .inr rfl⟩
    · exact ⟨⟨_, rfl⟩, .inl rfl⟩

/-- A package of the spa is reported and handed to its peer; a push for an app is shown to the local
link as well. -/
lemma route_spec (r : Relay) (package : Package) (content : Content) (datagram : Octets)
    (peer? : Option Peer) :
    let reaction := r.route package content datagram peer?
    let passage? := peer?.map fun peer => (⟨peer, content, datagram⟩ : Passage)
    (∃ localQueued, reaction.1 = { r with localQueued }) ∧
      reaction.2.filterMap RelayEffect.toClient? = (passage?.bind r.forClient?).toList ∧
      reaction.2.filterMap RelayEffect.toSpa? = [] ∧
      reaction.2.filterMap RelayEffect.record? =
        (passage?.map fun p => (Traffic.toPeer p.peer, p.content)).toList := by
  obtain ⟨⟨queued, hqueued⟩, heffects⟩ := r.deliverLocal_spec package
  cases peer? with
  | none => exact ⟨⟨_, rfl⟩, rfl, rfl, rfl⟩
  | some peer =>
    cases peer with
    | gateway =>
      have hroute : r.route package content datagram (some .gateway) =
          ((r.deliverLocal package).1,
            .record (.toPeer .gateway) content :: (r.deliverLocal package).2) := rfl
      rw [hroute, hqueued]
      rcases heffects with heffects | heffects <;> rw [heffects] <;> exact ⟨⟨_, rfl⟩, rfl, rfl, rfl⟩
    | client address =>
      -- whatever is shown to the local link, the app gets its datagram and the rest stays
      have hroute : ∃ isPush : Bool,
          let shown := if isPush then r.deliverLocal package else (r, [])
          r.route package content datagram (some (.client address)) =
            (shown.1, .record (.toPeer (.client address)) content ::
              (if shown.1.hasClients then [.toClient address datagram] else []) ++ shown.2) :=
        ⟨_, rfl⟩
      obtain ⟨isPush, hroute⟩ := hroute
      rw [hroute]
      unfold forClient?
      cases isPush with
      | false =>
        rw [if_neg Bool.false_ne_true]
        refine ⟨⟨_, rfl⟩, ?_⟩
        cases r.hasClients <;> exact ⟨rfl, rfl, rfl⟩
      | true =>
        rw [if_pos rfl, hqueued]
        rcases heffects with heffects | heffects <;> rw [heffects] <;> cases r.hasClients <;>
          exact ⟨⟨_, rfl⟩, rfl, rfl, rfl⟩

/-- A sweep changes the forward table and nothing else. -/
lemma fst_sweep (r : Relay) (now : Nat) : (r.sweep now).1 =
    { r with forwards := r.forwards.perform (.sweep now r.handshakeTimeout r.udpTimeout) } := by
  rw [sweep, ForwardTable.perform]
  cases r.forwards.sweepInReach? now r.handshakeTimeout r.udpTimeout <;> rfl

section

variable {r : Relay} (h : r.forwards.IsOneToOne) (now : Nat)

include h

/-- Nothing passes, and the mappings stay. -/
lemma reaction_of_none {input : RelayInput} {after : Relay}
    (hclients : after.hasClients = r.hasClients) (hforwards : after.forwards = r.forwards)
    (hgreeting : r.greeting? input = none) (hdown : r.downstream? input = none)
    (hup : r.upstream? input = none) (hspeaker : r.speaker? input = none)
    (hswept : r.swept now input = []) : Reaction r now input after [] where
  hasClients_eq := hclients
  isOneToOne := by rwa [hforwards]
  maps_iff := by simp [hforwards, hspeaker, hswept]
  toClient_eq := by simp [hgreeting, hdown]
  toSpa_eq := by simp [hup]
  record_eq := by simp [hup, hdown]

/-- A forward for the speaker makes its mapping the last word. -/
lemma maps_insert_iff {input : RelayInput} {speaker : Peer} {source : Octets}
    (hspeaker : r.speaker? input = some (speaker, source)) (hswept : r.swept now input = [])
    (id : Octets) (peer : Peer) :
    (r.forwards.insert speaker source now).1.peer? id = some peer ↔
      r.speaker? input = some (peer, id) ∨ r.forwards.peer? id = some peer ∧
        ¬ ((∃ speaker ∈ r.speaker? input, speaker.1 = peer ∨ speaker.2 = id) ∨
          (id, peer) ∈ r.swept now input) := by
  rw [(h.insert speaker source now).2, hspeaker, hswept]
  have hlinks : (id = source ∧ peer = speaker) ↔ some (speaker, source) = some (peer, id) := by
    simp [eq_comm, and_comm]
  have hbreaks : (id ≠ source ∧ peer ≠ speaker) ↔ ¬ ((∃ pair ∈ some (speaker, source),
      pair.1 = peer ∨ pair.2 = id) ∨ (id, peer) ∈ ([] : List (Octets × Peer))) := by
    simp [eq_comm, and_comm]
  rw [hlinks, hbreaks]

/-- A frame of a controller app gets the hello, or goes to the spa, or gets nowhere. -/
lemma reaction_clientSocket (sender : SocketAddress) (datagram : Octets)
    (hclients : r.hasClients = true) :
    Reaction r now (.clientSocket sender datagram) (r.onClientDatagram sender datagram now).1
      (r.onClientDatagram sender datagram now).2 := by
  have hdown : r.downstream? (.clientSocket sender datagram) = none := rfl
  -- what gets nowhere, and what is meant for the spa of another id, leaves no trace
  have hnowhere (haccepted : r.accepted? datagram = none)
      (hgreeting : r.greeting? (.clientSocket sender datagram) = none) :
      Reaction r now (.clientSocket sender datagram) r [] :=
    reaction_of_none h now rfl rfl hgreeting hdown (by simp [upstream?, haccepted])
      (by simp [speaker?, haccepted]) rfl
  cases hdecode : Frame.decodeDatagram datagram with
  | error fault =>
    simp only [onClientDatagram, hdecode]
    exact hnowhere (by simp [accepted?, hdecode]) (by simp [greeting?, hdecode])
  | ok package =>
    cases package with
    | hello key =>
      have haccepted : r.accepted? datagram = none := by simp [accepted?, hdecode]
      have hgreeting : r.greeting? (.clientSocket sender datagram) =
          some (sender, Frame.encode (.hello r.hello)) := by simp [greeting?, hclients, hdecode]
      have hup : r.upstream? (.clientSocket sender datagram) = none := by
        simp [upstream?, haccepted]
      simp only [onClientDatagram, hdecode]
      exact ⟨rfl, h, by simp [speaker?, haccepted, swept], by rw [hgreeting, hdown]; rfl,
        by rw [hup]; rfl, by rw [hup, hdown]; rfl⟩
    | authorized source? destination? content =>
      have hgreeting : r.greeting? (.clientSocket sender datagram) = none := by
        simp [greeting?, hdecode]
      rcases source? with _ | source
      · simp only [onClientDatagram, hdecode]
        exact hnowhere (by simp [accepted?, hdecode]) hgreeting
      rcases destination? with _ | destination
      · simp only [onClientDatagram, hdecode]
        exact hnowhere (by simp [accepted?, hdecode]) hgreeting
      by_cases hspa : destination = r.spaId
      · have haccepted : r.accepted? datagram = some (source, content) := by
          simp [accepted?, hdecode, hspa]
        have hspeaker : r.speaker? (.clientSocket sender datagram) =
            some (.client sender, source) := by simp [speaker?, hclients, haccepted]
        have hup : r.upstream? (.clientSocket sender datagram) =
            some ⟨.client sender, content, datagram⟩ := by simp [upstream?, hclients, haccepted]
        simp only [onClientDatagram, hdecode, if_pos hspa]
        exact ⟨rfl, (h.insert _ _ now).1, maps_insert_iff h now hspeaker rfl,
          by rw [hgreeting, hdown]; rfl, by rw [hup]; rfl, by rw [hup, hdown]; rfl⟩
      · simp only [onClientDatagram, hdecode, if_neg hspa]
        exact hnowhere (by simp [accepted?, hdecode, hspa]) hgreeting

/-- A package of the local link maps the gateway, and goes to the spa if it is no hello. -/
lemma reaction_localLink (package : Package) :
    Reaction r now (.localLink package) (r.onLocalPackage package now).1
      (r.onLocalPackage package now).2 := by
  have hdown : r.downstream? (.localLink package) = none := rfl
  cases package with
  | hello key =>
    have hspeaker : r.speaker? (.localLink (.hello key)) = some (.gateway, key) := rfl
    set mapped : Relay := { r with forwards := (r.forwards.insert .gateway key now).1 }
    obtain ⟨⟨queued, hqueued⟩, heffects⟩ := mapped.deliverLocal_spec (.hello mapped.hello)
    have hreact : r.onLocalPackage (.hello key) now = mapped.deliverLocal (.hello mapped.hello) :=
      rfl
    rw [hreact, hqueued]
    refine ⟨rfl, (h.insert _ _ now).1, maps_insert_iff h now hspeaker rfl, ?_, ?_, ?_⟩ <;>
      rcases heffects with heffects | heffects <;> rw [heffects] <;> rfl
  | authorized source? destination content =>
    cases source? with
    | none => exact reaction_of_none h now rfl rfl rfl hdown rfl rfl rfl
    | some source =>
      have hspeaker : r.speaker? (.localLink (.authorized (some source) destination content)) =
          some (.gateway, source) := rfl
      have hup : r.upstream? (.localLink (.authorized (some source) destination content)) =
          some ⟨.gateway, content, Frame.encode (.authorized (some source) destination content)⟩ :=
        rfl
      exact ⟨rfl, (h.insert _ _ now).1, maps_insert_iff h now hspeaker rfl, rfl, by rw [hup]; rfl,
        by rw [hup]; rfl⟩

/-- A package of the spa goes to the peer that its destination is mapped to. -/
lemma reaction_spaSocket (datagram : Octets) :
    Reaction r now (.spaSocket r.spa datagram) (r.onSpaDatagram datagram now).1
      (r.onSpaDatagram datagram now).2 := by
  -- what is addressed to nobody leaves no trace but a hello
  have hnowhere {after : Relay} (hclients : after.hasClients = r.hasClients)
      (hforwards : after.forwards = r.forwards)
      (haddressed : r.addressed? (.spaSocket r.spa datagram) = none) :
      Reaction r now (.spaSocket r.spa datagram) after [] :=
    reaction_of_none h now hclients hforwards rfl (by simp [downstream?, haddressed]) rfl rfl rfl
  unfold onSpaDatagram
  split
  · rename_i hdecode
    exact hnowhere rfl rfl (by simp [addressed?, hdecode])
  · rename_i hdecode
    exact hnowhere rfl rfl (by simp [addressed?, hdecode])
  · rename_i hdecode
    exact hnowhere rfl rfl (by simp [addressed?, hdecode])
  · rename_i source destination content hdecode
    have hdown : r.downstream? (.spaSocket r.spa datagram) =
        (r.forwards.peer? destination).map fun peer => ⟨peer, content, datagram⟩ := by
      simp [downstream?, addressed?, hdecode]
      rfl
    obtain ⟨hnoted, hreply, hpeer⟩ := h.gotReply destination now
    obtain ⟨⟨queued, hqueued⟩, hclient, hspa, hrecord⟩ :=
      { r with forwards := (r.forwards.gotReply destination now).1 }.route_spec
        (.authorized source (some destination) content) content datagram
        (r.forwards.gotReply destination now).2
    rw [hreply] at hqueued hclient hspa hrecord
    rw [← hdown] at hclient hrecord
    simp only [hreply]
    refine ⟨by rw [hqueued], by rwa [hqueued], ?_, hclient, hspa, hrecord⟩
    intro id peer
    rw [hqueued]
    simp [hpeer, speaker?, swept]

/-- **What a relay does with an input.** -/
theorem reaction_react (input : RelayInput) :
    Reaction r now input (r.react now input).1 (r.react now input).2 := by
  cases input with
  | spaSocket sender datagram =>
    by_cases hsender : sender = r.spa
    · rw [react, if_pos hsender, hsender]
      exact reaction_spaSocket h now datagram
    · have hdown : r.downstream? (.spaSocket sender datagram) = none := by
        simp [downstream?, addressed?, hsender]
      rw [react, if_neg hsender]
      exact reaction_of_none h now rfl rfl rfl hdown rfl rfl rfl
  | clientSocket sender datagram =>
    by_cases hclients : r.hasClients = true
    · rw [react, if_pos hclients]
      exact reaction_clientSocket h now sender datagram hclients
    · rw [react, if_neg hclients]
      exact reaction_of_none h now rfl rfl (if_neg hclients) rfl (if_neg hclients)
        (if_neg hclients) rfl
  | localLink package => exact reaction_localLink h now package
  | localTaken | localDropped => exact reaction_of_none h now rfl rfl rfl rfl rfl rfl rfl
  | sweep =>
    obtain ⟨hswept, hmaps⟩ := h.perform (.sweep now r.handshakeTimeout r.udpTimeout)
    rw [react, r.fst_sweep]
    refine ⟨rfl, hswept, fun id peer => ?_, rfl, rfl, rfl⟩
    rw [hmaps]
    simp [speaker?, swept, ForwardTable.Operation.Links, ForwardTable.Operation.Mentions]

end

end Relay

end SpaGateway
