import Mathlib.Tactic
import SpaGateway.Proofs.History
import SpaGateway.Proofs.Relay.Routing
import SpaGateway.Relay.Greeting

/-!
# Transparency and isolation

A relay is transparent: what the two sides get are the datagrams of the other side, octet for octet
and in order.  It is isolating: a package of the spa reaches at most one controller app, the one
that its destination belongs to.  `Relay.transparent_and_isolating` says this of every run.

To whom an id belongs is read off the history alone (`Relay.HasId`): to the peer that spoke to the
spa under that id last, if it has not spoken under another id since and its mapping was not swept.
So is the hello that the relay answers with: it is the last one that the spa sent.
-/

namespace SpaGateway

namespace Relay

/-! ## Runs -/

/-- An input and when it arrives. -/
structure Event where
  now : Nat
  input : RelayInput
  deriving DecidableEq

/-- The relay after an input. -/
def handle (r : Relay) (event : Event) : Relay := (r.react event.now event.input).1

/-- The steps of a relay's run. -/
def history (r : Relay) (events : List Event) : List (Step Relay Event) := steps handle r events

/-- What a relay does in a step. -/
def effects (step : Step Relay Event) : List RelayEffect :=
  (step.before.react step.action.now step.action.input).2

/-- Whether an id belongs to a peer: it spoke under that id, and since then neither it nor another
peer changed that, and no sweep gave it up. -/
def HasId (history : List (Step Relay Event)) (peer : Peer) (id : Octets) : Prop :=
  ∃ earlier spoke later, history = earlier ++ spoke :: later ∧
    spoke.before.speaker? spoke.action.input = some (peer, id) ∧
    ∀ step ∈ later,
      (∀ speaker ∈ step.before.speaker? step.action.input, speaker.1 ≠ peer ∧ speaker.2 ≠ id) ∧
        (id, peer) ∉ step.before.swept step.action.now step.action.input

/-- The hello with which the spa introduces itself. -/
def announced? (spa : SocketAddress) : RelayInput → Option Octets
  | .spaSocket sender datagram => Greeting.answer? spa sender datagram
  | _ => none

/-- What is reported of the traffic because of an input. -/
def reported (r : Relay) (input : RelayInput) : List (Traffic × Content) :=
  ((r.upstream? input).map fun p => (Traffic.fromPeer p.peer, p.content)).toList ++
    ((r.downstream? input).map fun p => (Traffic.toPeer p.peer, p.content)).toList

/-! ## The hello -/

/-- A hello of the spa replaces the one that the relay answers with; nothing else does. -/
lemma hello_react (r : Relay) (now : Nat) (input : RelayInput) :
    (r.react now input).1.spa = r.spa ∧
      (r.react now input).1.hello = (announced? r.spa input).getD r.hello := by
  cases input with
  | spaSocket sender datagram =>
    by_cases hsender : sender = r.spa
    · rw [react, announced?, Greeting.answer?, if_pos hsender, if_pos hsender, onSpaDatagram]
      split <;> rename_i hdecode <;> rw [hdecode]
      · exact ⟨rfl, rfl⟩
      · exact ⟨rfl, rfl⟩
      · exact ⟨rfl, rfl⟩
      · rename_i source destination content
        obtain ⟨⟨queued, hqueued⟩, -⟩ :=
          { r with forwards := (r.forwards.gotReply destination now).1 }.route_spec
            (.authorized source (some destination) content) content datagram
            (r.forwards.gotReply destination now).2
        dsimp only at hqueued ⊢
        rw [hqueued]
        exact ⟨rfl, rfl⟩
    · rw [react, if_neg hsender]
      simp [announced?, Greeting.answer?, hsender]
  | clientSocket sender datagram =>
    rw [react]
    split
    · unfold onClientDatagram
      repeat' split
      all_goals exact ⟨rfl, rfl⟩
    · exact ⟨rfl, rfl⟩
  | localLink package =>
    rw [react]
    rcases package with key | ⟨_ | source, destination, content⟩
    · obtain ⟨⟨queued, hqueued⟩, -⟩ :=
        { r with forwards := (r.forwards.insert .gateway key now).1 }.deliverLocal_spec
          (.hello r.hello)
      simp only [onLocalPackage]
      rw [hqueued]
      exact ⟨rfl, rfl⟩
    · exact ⟨rfl, rfl⟩
    · exact ⟨rfl, rfl⟩
  | localTaken | localDropped => exact ⟨rfl, rfl⟩
  | sweep =>
    rw [react, r.fst_sweep]
    exact ⟨rfl, rfl⟩

lemma hello_foldl_handle (r : Relay) (events : List Event) :
    (events.foldl handle r).spa = r.spa ∧ (events.foldl handle r).hello =
      (events.filterMap fun event => announced? r.spa event.input).getLast?.getD r.hello := by
  induction events using List.reverseRecOn with
  | nil => exact ⟨rfl, rfl⟩
  | append_singleton events event ih =>
    obtain ⟨hspa, hhello⟩ := ih
    obtain ⟨hspa', hhello'⟩ := (events.foldl handle r).hello_react event.now event.input
    rw [hspa] at hspa' hhello'
    rw [List.foldl_append, List.filterMap_append]
    refine ⟨hspa', hhello'.trans ?_⟩
    rw [hhello]
    cases hannounced : announced? r.spa event.input <;> simp [hannounced]

/-! ## Whole runs -/

section

variable {r : Relay} (h : r.forwards.IsOneToOne)

include h

/-- The forward table of a relay stays one-to-one, and whether there are apps is settled. -/
lemma invariant_foldl_handle (events : List Event) :
    (events.foldl handle r).forwards.IsOneToOne ∧
      (events.foldl handle r).hasClients = r.hasClients := by
  refine keeps_foldl (P := fun s : Relay => s.forwards.IsOneToOne ∧ s.hasClients = r.hasClients)
    (fun s event hs => ?_) ⟨h, rfl⟩ events
  have hreaction := reaction_react hs.1 event.now event.input
  exact ⟨hreaction.isOneToOne, hreaction.hasClients_eq.trans hs.2⟩

lemma reaction_of_mem_history {events : List Event} {step : Step Relay Event}
    (hstep : step ∈ r.history events) :
    Reaction step.before step.action.now step.action.input (handle step.before step.action)
      (effects step) := by
  refine reaction_react ?_ _ _
  exact before_of_mem_steps (P := fun s : Relay => s.forwards.IsOneToOne)
    (fun s event hs => (reaction_react hs event.now event.input).isOneToOne) h hstep

/-- **The last word about an id.**  An id is mapped to the peer that it belongs to. -/
lemma peer?_eq_some_iff_hasId (events : List Event) {id : Octets} {peer : Peer}
    (hnew : ¬ r.forwards.peer? id = some peer) :
    (events.foldl handle r).forwards.peer? id = some peer ↔ HasId (r.history events) peer id := by
  have hstep (step : Step Relay Event) (hmem : step ∈ r.history events) :=
    (reaction_of_mem_history h hmem).maps_iff id peer
  have hlast := holds_foldl_iff (P := fun s : Relay => s.forwards.peer? id = some peer) hnew hstep
  rw [hlast]
  unfold HasId history
  simp only [not_or, not_exists, not_and]

/-- What the spa gets in a run are the datagrams of the packages on their way up. -/
lemma toSpa_history (events : List Event) :
    ((r.history events).flatMap effects).filterMap RelayEffect.toSpa? =
      (r.history events).filterMap fun step =>
        (step.before.upstream? step.action.input).map Passage.datagram := by
  rw [List.filterMap_flatMap, List.filterMap_eq_flatMap_toList]
  exact List.flatMap_congr fun step hstep => (reaction_of_mem_history h hstep).toSpa_eq

/-- What is reported in a run are the packages on their way either way. -/
lemma record_history (events : List Event) :
    ((r.history events).flatMap effects).filterMap RelayEffect.record? =
      (r.history events).flatMap fun step => step.before.reported step.action.input := by
  rw [List.filterMap_flatMap]
  exact List.flatMap_congr fun step hstep => (reaction_of_mem_history h hstep).record_eq

end

/-- Whether a relay can get into this state once it is bound. -/
def IsReachable (r : Relay) : Prop :=
  ∃ config spa hello hasLocal hasClients events,
    r = List.foldl handle (create config spa hello hasLocal hasClients) events

lemma IsReachable.isOneToOne {r : Relay} (h : r.IsReachable) : r.forwards.IsOneToOne := by
  obtain ⟨config, spa, hello, hasLocal, hasClients, events, rfl⟩ := h
  exact (invariant_foldl_handle ForwardTable.isOneToOne_empty events).1

/-! ## What controller apps get -/

lemma toClient_mem_iff {effects : List RelayEffect} {address : SocketAddress} {datagram : Octets} :
    RelayEffect.toClient address datagram ∈ effects ↔
      (address, datagram) ∈ effects.filterMap RelayEffect.toClient? := by
  rw [List.mem_filterMap]
  constructor
  · exact fun hmem => ⟨_, hmem, rfl⟩
  · rintro ⟨effect, hmem, heffect⟩
    cases effect with
    | toClient =>
      cases heffect
      exact hmem
    | toSpa | toLocal | record => cases heffect

/-- The hello answers a hello. -/
lemma greeting?_eq_some_iff {r : Relay} {input : RelayInput} {address : SocketAddress}
    {datagram : Octets} : r.greeting? input = some (address, datagram) ↔
      r.hasClients = true ∧ ∃ greeting key, input = .clientSocket address greeting ∧
        Frame.decodeDatagram greeting = .ok (.hello key) ∧
        datagram = Frame.encode (.hello r.hello) := by
  cases input with
  | clientSocket sender greeting =>
    by_cases hclients : r.hasClients = true
    · cases hdecode : Frame.decodeDatagram greeting with
      | error fault => simp [greeting?, hdecode]
      | ok package => cases package <;> simp [greeting?, hdecode, hclients, eq_comm]
    · simp [greeting?, hclients]
  | spaSocket | localLink | localTaken | localDropped | sweep => simp [greeting?]

lemma addressed?_eq_some_iff {r : Relay} {input : RelayInput} {destination : Octets}
    {content : Content} : r.addressed? input = some (destination, content) ↔
      ∃ datagram source, input = .spaSocket r.spa datagram ∧
        Frame.decodeDatagram datagram = .ok (.authorized source (some destination) content) := by
  cases input with
  | spaSocket sender datagram =>
    by_cases hsender : sender = r.spa
    · cases hdecode : Frame.decodeDatagram datagram with
      | error fault => simp [addressed?, hdecode]
      | ok package =>
        rcases package with key | ⟨source, _ | destination, content⟩ <;>
          simp [addressed?, hsender, hdecode]
    · simp [addressed?, hsender]
  | clientSocket | localLink | localTaken | localDropped | sweep => simp [addressed?]

/-- A package of the spa goes to the app that its destination is mapped to. -/
lemma forClient?_eq_some_iff {r : Relay} {input : RelayInput} {address : SocketAddress}
    {x : Octets} : (r.downstream? input).bind r.forClient? = some (address, x) ↔
      r.hasClients = true ∧ input = .spaSocket r.spa x ∧ ∃ source destination content,
        Frame.decodeDatagram x = .ok (.authorized source (some destination) content) ∧
        r.forwards.peer? destination = some (.client address) := by
  constructor
  · intro hsome
    obtain ⟨passage, hdown, hclient⟩ := Option.bind_eq_some_iff.1 hsome
    obtain ⟨⟨destination, content⟩, haddressed, hpassage⟩ := Option.bind_eq_some_iff.1 hdown
    obtain ⟨peer, hpeer, rfl⟩ := Option.map_eq_some_iff.1 hpassage
    obtain ⟨datagram, source, rfl, hdecode⟩ := addressed?_eq_some_iff.1 haddressed
    cases peer with
    | gateway => cases hclient
    | client address' =>
      obtain ⟨hclients, hpair⟩ : r.hasClients = true ∧ (address', datagram) = (address, x) := by
        simpa [forClient?, RelayInput.datagram] using hclient
      obtain ⟨rfl, rfl⟩ := Prod.mk.inj hpair
      exact ⟨hclients, rfl, source, destination, content, hdecode, hpeer⟩
  · rintro ⟨hclients, rfl, source, destination, content, hdecode, hpeer⟩
    have haddressed : r.addressed? (.spaSocket r.spa x) = some (destination, content) :=
      addressed?_eq_some_iff.2 ⟨x, source, rfl, hdecode⟩
    simp [downstream?, haddressed, hpeer, forClient?, hclients, RelayInput.datagram]

/-- At most one datagram leaves for an app at a time. -/
lemma length_toClient_le_one (r : Relay) (input : RelayInput) :
    ((r.greeting? input).toList ++
      ((r.downstream? input).bind r.forClient?).toList).length ≤ 1 := by
  cases input with
  | spaSocket sender datagram =>
    have hgreeting : r.greeting? (.spaSocket sender datagram) = none := rfl
    rw [hgreeting]
    cases (r.downstream? (.spaSocket sender datagram)).bind r.forClient? <;> simp
  | clientSocket sender datagram =>
    have hdown : r.downstream? (.clientSocket sender datagram) = none := rfl
    rw [hdown]
    cases r.greeting? (.clientSocket sender datagram) <;> simp
  | localLink | localTaken | localDropped | sweep => exact Nat.zero_le _

/-- **A relay is transparent and isolating.**  After any run of a relay that has just been bound, an
id is mapped to the peer that it belongs to, and the cached hello is the last one of the spa.
Whatever arrives then, a controller app gets a datagram exactly if it is the cached hello and the
app sent a hello, or if it came from the spa and its destination belongs to the app; no other app
gets one.  And over the run the spa got exactly the datagrams on their way up, in order, and the
traffic was reported package by package. -/
theorem transparent_and_isolating (config : GatewayConfig) (spa : SocketAddress) (hello : Octets)
    (hasLocal hasClients : Bool) (past : List Event) (event : Event) :
    let bound := create config spa hello hasLocal hasClients
    let history := bound.history past
    let r := past.foldl handle bound
    let sent := (r.react event.now event.input).2
    (∀ id peer, r.forwards.peer? id = some peer ↔ HasId history peer id) ∧
      r.hello = (past.filterMap fun event => announced? spa event.input).getLast?.getD hello ∧
      (∀ address datagram, .toClient address datagram ∈ sent ↔ hasClients = true ∧
        ((∃ greeting key, event.input = .clientSocket address greeting ∧
            Frame.decodeDatagram greeting = .ok (.hello key) ∧
            datagram = Frame.encode (.hello r.hello)) ∨
          event.input = .spaSocket spa datagram ∧ ∃ source destination content,
            Frame.decodeDatagram datagram = .ok (.authorized source (some destination) content) ∧
            HasId history (.client address) destination)) ∧
      (sent.filterMap RelayEffect.toClient?).length ≤ 1 ∧
      (history.flatMap effects).filterMap RelayEffect.toSpa? = (history.filterMap fun step =>
        (step.before.upstream? step.action.input).map Passage.datagram) ∧
      (history.flatMap effects).filterMap RelayEffect.record? = (history.flatMap fun step =>
        step.before.reported step.action.input) := by
  intro bound history r sent
  have hone : bound.forwards.IsOneToOne := ForwardTable.isOneToOne_empty
  obtain ⟨hspa, hhello⟩ := bound.hello_foldl_handle past
  obtain ⟨hforwards, hclients⟩ := invariant_foldl_handle hone past
  have hnew (id : Octets) (peer : Peer) : ¬ bound.forwards.peer? id = some peer := by
    simp [bound, create, ForwardTable.peer?, Index.get?]
  have hpeer (id : Octets) (peer : Peer) : r.forwards.peer? id = some peer ↔
      HasId history peer id := peer?_eq_some_iff_hasId hone past (hnew id peer)
  have htoClient := (reaction_react hforwards event.now event.input).toClient_eq
  refine ⟨hpeer, hhello, fun address datagram => ?_, ?_, toSpa_history hone past,
    record_history hone past⟩
  · rw [toClient_mem_iff, htoClient, List.mem_append, Option.mem_toList, Option.mem_toList,
      greeting?_eq_some_iff, forClient?_eq_some_iff, ← and_or_left]
    change r.hasClients = hasClients at hclients
    change r.spa = spa at hspa
    simp only [r, hclients, hspa, hpeer]
  · rw [htoClient]
    exact length_toClient_le_one _ _

end Relay

end SpaGateway
