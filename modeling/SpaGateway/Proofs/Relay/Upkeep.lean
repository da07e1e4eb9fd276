import Mathlib.Tactic
import SpaGateway.Proofs.Forward.Expiry
import SpaGateway.Proofs.Relay.Transparency

/-!
# The upkeep of a relay's forward table

An input makes a relay do at most one thing to its forward table: a forward when a peer speaks to
the spa, a note when the spa addresses an id, and a sweep (`Relay.operation?`).  `Relay.react_eq`
says that this, the cached hello and the queue of the local link are all that a reaction changes of
the relay.  So what is known of the histories of forward tables holds of relays
(`Relay.forwards_foldl_handle`).
-/

namespace SpaGateway

open ForwardTable (Operation ofOperations)

namespace Relay

/-- What an input makes the relay do to its forward table. -/
def operation? (r : Relay) (now : Nat) : RelayInput → Option Operation
  | .sweep => some (.sweep now r.handshakeTimeout r.udpTimeout)
  | input =>
    match r.speaker? input with
    | some (peer, id) => some (.insert peer id now)
    | none => (r.addressed? input).map fun (destination, _) => .gotReply destination now

/-- The forward table after an input. -/
def tended (r : Relay) (now : Nat) (input : RelayInput) : ForwardTable :=
  (r.operation? now input).elim r.forwards r.forwards.perform

lemma now_of_operation? {r : Relay} {now : Nat} {input : RelayInput} {operation : Operation}
    (h : r.operation? now input = some operation) : operation.now = now := by
  unfold operation? at h
  split at h
  · obtain rfl := Option.some.inj h
    rfl
  · split at h
    · obtain rfl := Option.some.inj h
      rfl
    · obtain ⟨pair, -, rfl⟩ := Option.map_eq_some_iff.1 h
      rfl

/-- **What a reaction changes of a relay**: the cached hello, the queue of the local link, and the
forward table as the input asks. -/
theorem react_eq (r : Relay) (now : Nat) (input : RelayInput) :
    ∃ hello localQueued, (r.react now input).1 =
      { r with hello, localQueued, forwards := r.tended now input } := by
  have hrest (hnone : r.operation? now input = none) (hello : Octets) (localQueued : Option Nat) :
      ({ r with hello, localQueued } : Relay) =
        { r with hello, localQueued, forwards := r.tended now input } := by
    rw [tended, hnone]
    rfl
  cases input with
  | spaSocket sender datagram =>
    rw [react]
    split
    · rename_i hsender
      unfold onSpaDatagram
      split
      · rename_i hdecode
        exact ⟨_, _, hrest (by simp [operation?, speaker?, addressed?, hdecode]) _ _⟩
      · rename_i hdecode
        exact ⟨_, _, hrest (by simp [operation?, speaker?, addressed?, hdecode]) _ _⟩
      · rename_i hdecode
        exact ⟨_, _, hrest (by simp [operation?, speaker?, addressed?, hdecode]) _ _⟩
      · rename_i source destination content hdecode
        obtain ⟨⟨queued, hqueued⟩, -⟩ :=
          { r with forwards := (r.forwards.gotReply destination now).1 }.route_spec
            (.authorized source (some destination) content) content datagram
            (r.forwards.gotReply destination now).2
        refine ⟨r.hello, queued, hqueued.trans ?_⟩
        simp [tended, operation?, speaker?, addressed?, hsender, hdecode, ForwardTable.perform]
    · rename_i hsender
      exact ⟨_, _, hrest (by simp [operation?, speaker?, addressed?, hsender]) _ _⟩
  | clientSocket sender datagram =>
    rw [react]
    split
    · rename_i hclients
      unfold onClientDatagram
      split
      · rename_i hdecode
        exact ⟨_, _, hrest (by simp [operation?, speaker?, accepted?, addressed?, hdecode]) _ _⟩
      · rename_i hdecode
        exact ⟨_, _, hrest (by simp [operation?, speaker?, accepted?, addressed?, hdecode]) _ _⟩
      · rename_i source destination content hdecode
        split
        · rename_i hspa
          refine ⟨r.hello, r.localQueued, ?_⟩
          simp [tended, operation?, speaker?, accepted?, hclients, hdecode, hspa,
            ForwardTable.perform]
        · rename_i hspa
          exact ⟨_, _, hrest (by simp [operation?, speaker?, accepted?, addressed?, hdecode, hspa])
            _ _⟩
      · rename_i source destination content hnot hdecode
        have haccepted : r.accepted? datagram = none := by
          unfold accepted?
          split
          · rename_i hsome
            rw [hdecode] at hsome
            cases hsome
            exact (hnot _ _ rfl rfl).elim
          · rfl
        exact ⟨_, _, hrest (by simp [operation?, speaker?, haccepted, addressed?]) _ _⟩
    · rename_i hclients
      exact ⟨_, _, hrest (by simp [operation?, speaker?, addressed?, hclients]) _ _⟩
  | localLink package =>
    rcases package with key | ⟨_ | source, destination, content⟩
    · obtain ⟨⟨queued, hqueued⟩, -⟩ :=
        { r with forwards := (r.forwards.insert .gateway key now).1 }.deliverLocal_spec
          (.hello r.hello)
      exact ⟨r.hello, queued, hqueued⟩
    · exact ⟨_, _, hrest rfl _ _⟩
    · exact ⟨r.hello, r.localQueued, rfl⟩
  | localTaken | localDropped => exact ⟨_, _, hrest rfl _ _⟩
  | sweep => exact ⟨r.hello, r.localQueued, r.fst_sweep now⟩

/-- What the spa sends to an id is routed to the peer that the id is mapped to. -/
lemma effects_react_authorized (r : Relay) {datagram id : Octets} {source : Option Octets}
    {content : Content}
    (hdecode : Frame.decodeDatagram datagram = .ok (.authorized source (some id) content))
    (now : Nat) : (r.react now (.spaSocket r.spa datagram)).2 =
      ({ r with forwards := (r.forwards.gotReply id now).1 }.route
        (.authorized source (some id) content) content datagram (r.forwards.peer? id)).2 := by
  simp only [react, if_true, onSpaDatagram, hdecode, r.forwards.snd_gotReply]

/-! ## Runs -/

/-- What the steps of a run do to the forward table. -/
def operations (history : List (Step Relay Event)) : List Operation :=
  history.filterMap fun step => step.before.operation? step.action.now step.action.input

lemma forwards_handle (r : Relay) (event : Event) :
    (handle r event).forwards = r.tended event.now event.input := by
  obtain ⟨hello, localQueued, hreact⟩ := r.react_eq event.now event.input
  rw [handle, hreact]

/-- **The forward table of a relay is what the inputs make of an empty one.** -/
theorem forwards_foldl_handle {r : Relay} (h : r.forwards = {}) (events : List Event) :
    (events.foldl handle r).forwards = ofOperations (operations (r.history events)) := by
  induction events using List.reverseRecOn with
  | nil => exact h
  | append_singleton events event ih =>
    set s := events.foldl handle r with hs
    have hoperations : operations (r.history (events ++ [event])) =
        operations (r.history events) ++ (s.operation? event.now event.input).toList := by
      rw [history, steps_concat, ← hs, operations, List.filterMap_append]
      cases hoperation : s.operation? event.now event.input <;>
        simp [operations, history, hoperation]
    rw [List.foldl_append, ← hs, List.foldl_cons, List.foldl_nil, forwards_handle, tended,
      hoperations, ofOperations, List.foldl_append, ← ofOperations, ← ih]
    cases s.operation? event.now event.input <;> rfl

/-- The timeouts of a relay are settled. -/
lemma timeouts_foldl_handle (r : Relay) (events : List Event) :
    (events.foldl handle r).handshakeTimeout = r.handshakeTimeout ∧
      (events.foldl handle r).udpTimeout = r.udpTimeout := by
  refine keeps_foldl (P := fun s : Relay => s.handshakeTimeout = r.handshakeTimeout ∧
    s.udpTimeout = r.udpTimeout) (fun s event hs => ?_) ⟨rfl, rfl⟩ events
  obtain ⟨hello, localQueued, hreact⟩ := s.react_eq event.now event.input
  rw [handle, hreact]
  exact hs

end Relay

end SpaGateway
