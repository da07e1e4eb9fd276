import Mathlib.Tactic
import SpaGateway.Proofs.Forward.Table
import SpaGateway.Proofs.History

/-!
# The history of a forward table

Whatever is done to a new forward table, it stays one-to-one, and what it maps can be read off what
was done: an id is mapped to a peer exactly if the last forward that mentions either of them was
theirs and no sweep has reported them since.  `mapping_iff_last_forward` puts this together from
what each operation does to the mappings (`IsOneToOne.perform`) and the last word in a history.
-/

namespace SpaGateway

namespace ForwardTable

/-- Something done to a table. -/
inductive Operation where
  /-- A package of a peer is forwarded. -/
  | insert (peer : Peer) (id : Octets) (now : Nat)
  /-- The spa answers an id. -/
  | gotReply (id : Octets) (now : Nat)
  /-- Expired mappings are swept. -/
  | sweep (now handshakeTimeout udpTimeout : Nat)
  deriving DecidableEq

/-- The table after an operation. A sweep that comes to nothing leaves it as it is. -/
def perform (table : ForwardTable) : Operation → ForwardTable
  | .insert peer id now => (table.insert peer id now).1
  | .gotReply id now => (table.gotReply id now).1
  | .sweep now handshakeTimeout udpTimeout =>
    (table.sweepInReach? now handshakeTimeout udpTimeout).elim table Sweep.table

/-- The mappings that an operation reports as expired. -/
def reported (table : ForwardTable) : Operation → List (Octets × Peer)
  | .sweep now handshakeTimeout udpTimeout =>
    (table.sweepInReach? now handshakeTimeout udpTimeout).elim [] Sweep.expired
  | _ => []

namespace Operation

variable (id : Octets) (peer : Peer)

/-- Whether an operation forwards for this pair. -/
def Links : Operation → Prop
  | insert peer' id' _ => id' = id ∧ peer' = peer
  | _ => False

/-- Whether an operation forwards for one of the pair. -/
def Mentions : Operation → Prop
  | insert peer' id' _ => id' = id ∨ peer' = peer
  | _ => False

end Operation

/-- **What an operation does to the mappings.**  A pair is mapped afterwards if it was linked, or if
it was mapped before, neither side was mentioned, and it was not reported. -/
lemma IsOneToOne.perform {table : ForwardTable} (h : table.IsOneToOne) (operation : Operation) :
    (table.perform operation).IsOneToOne ∧
      ∀ id peer, (table.perform operation).peer? id = some peer ↔
        operation.Links id peer ∨ table.peer? id = some peer ∧
          ¬ (operation.Mentions id peer ∨ (id, peer) ∈ table.reported operation) := by
  cases operation with
  | insert peer' id' now =>
    obtain ⟨hinserted, hpeer⟩ := h.insert peer' id' now
    refine ⟨hinserted, fun id peer => ?_⟩
    rw [ForwardTable.perform, hpeer]
    simp [Operation.Links, Operation.Mentions, reported, eq_comm]
  | gotReply id' now =>
    obtain ⟨hnoted, -, hpeer⟩ := h.gotReply id' now
    refine ⟨hnoted, fun id peer => ?_⟩
    rw [ForwardTable.perform, hpeer]
    simp [Operation.Links, Operation.Mentions, reported]
  | sweep now handshakeTimeout udpTimeout =>
    rw [ForwardTable.perform, reported]
    cases hswept : table.sweepInReach? now handshakeTimeout udpTimeout with
    | none => exact ⟨h, by simp [Operation.Links, Operation.Mentions]⟩
    | some swept =>
      obtain ⟨-, rfl⟩ := sweepInReach?_eq_some_iff.1 hswept
      obtain ⟨hone, hpeer⟩ := h.sweep now handshakeTimeout udpTimeout
      exact ⟨hone, by simp [hpeer, Operation.Links, Operation.Mentions]⟩

/-- A new table to which all this was done. -/
def ofOperations (operations : List Operation) : ForwardTable := operations.foldl perform {}

/-- The steps that led there. -/
def history (operations : List Operation) : List (Step ForwardTable Operation) :=
  steps perform {} operations

lemma isOneToOne_ofOperations (operations : List Operation) :
    (ofOperations operations).IsOneToOne :=
  keeps_foldl (fun _ operation h => (h.perform operation).1) isOneToOne_empty operations

/-- **A forward table is a one-to-one map determined by its history.**  Whatever was done to a new
table: its indexes are inverse of each other and as large as there are mappings; an id is mapped to
a peer exactly if the last forward that mentions one of them was theirs and no sweep reported them
since; a forward is new exactly if its pair is not mapped; and a reply goes to the peer of its id
and changes no mapping. -/
theorem mapping_iff_last_forward (operations : List Operation) :
    (∀ id peer, (ofOperations operations).peer? id = some peer ↔
        (ofOperations operations).id? peer = some id) ∧
      (∃ mappings : List (Octets × Peer), mappings.Nodup ∧
        mappings.length = (ofOperations operations).size ∧
        mappings.length = (ofOperations operations).byPeer.size ∧
        ∀ id peer, (id, peer) ∈ mappings ↔ (ofOperations operations).peer? id = some peer) ∧
      (∀ id peer, (ofOperations operations).peer? id = some peer ↔
        ∃ earlier link later, history operations = earlier ++ link :: later ∧
          link.action.Links id peer ∧
          ∀ e ∈ later, ¬ e.action.Mentions id peer ∧ (id, peer) ∉ e.before.reported e.action) ∧
      (∀ peer id now, ((ofOperations operations).insert peer id now).2 = true ↔
        (ofOperations operations).peer? id ≠ some peer) ∧
      ∀ id now, ((ofOperations operations).gotReply id now).2 = (ofOperations operations).peer? id ∧
        (∀ other, ((ofOperations operations).gotReply id now).1.peer? other =
          (ofOperations operations).peer? other) ∧
        ∀ peer, ((ofOperations operations).gotReply id now).1.id? peer =
          (ofOperations operations).id? peer := by
  have h := isOneToOne_ofOperations operations
  refine ⟨h.inverse, h.exists_mappings, fun id peer => ?_, insert_isNew_iff _, fun id now => ?_⟩
  · have hstep : ∀ e ∈ history operations, (e.before.perform e.action).peer? id = some peer ↔
        e.action.Links id peer ∨ e.before.peer? id = some peer ∧
          ¬ (e.action.Mentions id peer ∨ (id, peer) ∈ e.before.reported e.action) := fun e he =>
      ((before_of_mem_steps (P := IsOneToOne) (fun _ operation h => (h.perform operation).1)
        isOneToOne_empty he).perform e.action).2 id peer
    have hempty : ¬ peer? {} id = some peer := by simp [peer?, Index.get?]
    rw [ofOperations, history]
    simpa only [not_or] using holds_foldl_iff (P := (peer? · id = some peer))
      hempty hstep
  · obtain ⟨-, hreply, hpeer⟩ := h.gotReply id now
    exact ⟨hreply, hpeer, id?_gotReply _ id now⟩

end ForwardTable

end SpaGateway
