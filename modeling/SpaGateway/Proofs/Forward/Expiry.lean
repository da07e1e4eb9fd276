import Mathlib.Data.List.DropRight
import Mathlib.Tactic
import SpaGateway.Proofs.Forward.History

/-!
# When mappings expire

A mapping is heard of when a package of its peer is forwarded and when the spa answers its id.  It
expires a handshake timeout after its last forward while the spa has never answered, and a udp
timeout after it was last heard of once the spa has.  The table keeps the times for this in its
entries.

The first part says on the entries what each operation does (`IsOneToOne.get?_insert`,
`IsOneToOne.get?_gotReply`, `IsOneToOne.get?_sweep`), and what a sweep foretells.  The second part
says what the entries mean: `ForwardTable.expiry?` reads the expiry of a mapping off the history of
the table alone, and `expiry?_eq_of_get?` shows that the entries hold exactly that.
-/

namespace SpaGateway

namespace Forward

variable {entry : Forward} {now : Nat}

/-- Whether a mapping is heard of at a time. -/
def IsHeardAt (entry : Forward) (now : Nat) : Prop :=
  entry.lastForward = now ∨ entry.lastReply = some now

/-- Whether a mapping was heard of last at a time or before. -/
def IsHeardBy (entry : Forward) (now : Nat) : Prop :=
  entry.lastForward ≤ now ∧ ∀ reply ∈ entry.lastReply, reply ≤ now

lemma IsHeardBy.mono (h : entry.IsHeardBy now) {later : Nat} (hle : now ≤ later) :
    entry.IsHeardBy later :=
  ⟨h.1.trans hle, fun reply hreply => (h.2 reply hreply).trans hle⟩

/-- A mapping stays for the shorter timeout at least after its last forward. -/
lemma lastForward_le_expiresAt (entry : Forward) (handshakeTimeout udpTimeout : Nat) :
    entry.lastForward + min handshakeTimeout udpTimeout ≤
      entry.expiresAt handshakeTimeout udpTimeout := by
  unfold expiresAt
  cases entry.lastReply with
  | none => dsimp only; omega
  | some reply => dsimp only; omega

/-- So it does after it was heard of. -/
lemma IsHeardAt.le_expiresAt (h : entry.IsHeardAt now) (handshakeTimeout udpTimeout : Nat) :
    now + min handshakeTimeout udpTimeout ≤ entry.expiresAt handshakeTimeout udpTimeout := by
  rcases h with rfl | h
  · exact entry.lastForward_le_expiresAt handshakeTimeout udpTimeout
  · rw [expiresAt, h]
    dsimp only
    omega

/-- A mapping stays for the longer timeout at most after it was heard of last. -/
lemma IsHeardBy.expiresAt_le (h : entry.IsHeardBy now) (handshakeTimeout udpTimeout : Nat) :
    entry.expiresAt handshakeTimeout udpTimeout ≤ now + max handshakeTimeout udpTimeout := by
  obtain ⟨hforward, hreply⟩ := h
  unfold expiresAt
  cases hlast : entry.lastReply with
  | none => dsimp only; omega
  | some reply =>
    have hle := hreply reply hlast
    dsimp only
    omega

end Forward

namespace ForwardTable

variable {table : ForwardTable} {id other : Octets} {peer p : Peer}

/-! ## What the operations do to an entry -/

lemma get?_dropId (table : ForwardTable) (id other : Octets) :
    (table.dropId id).byId.get? other = if other = id then none else table.byId.get? other := by
  unfold dropId
  cases hget : table.byId.get? id with
  | none => by_cases hother : other = id <;> simp [hother, hget]
  | some old => rw [Index.get?_erase]

lemma get?_gotReply (table : ForwardTable) (id other : Octets) (now : Nat) :
    (table.gotReply id now).1.byId.get? other =
      if other = id then (table.byId.get? id).map ({ · with lastReply := some now })
      else table.byId.get? other := by
  unfold gotReply
  cases hget : table.byId.get? id with
  | none => by_cases hother : other = id <;> simp [hother, hget]
  | some entry => simp

lemma get?_remove (table : ForwardTable) (id : Octets) (peer : Peer) (other : Octets) :
    (table.remove id peer).byId.get? other = if other = id then none else table.byId.get? other :=
  Index.get?_erase _ _ _

lemma get?_foldl_remove (expired : List (Octets × Peer)) (table : ForwardTable) (id : Octets) :
    (expired.foldl (fun table (id, peer) => table.remove id peer) table).byId.get? id =
      if id ∈ expired.map Prod.fst then none else table.byId.get? id := by
  induction expired generalizing table with
  | nil => rfl
  | cons pair expired ih =>
    rw [List.foldl_cons, ih, List.map_cons]
    by_cases hid : id = pair.1
    · simp [hid, get?_remove]
    · simp only [List.mem_cons, hid, false_or, get?_remove, if_false]

lemma earliest?_eq_min? (times : List Nat) : earliest? times = times.min? := by
  induction times with
  | nil => rfl
  | cons time times ih =>
    rw [earliest?, ih, List.min?_cons]
    cases times.min? <;> rfl

namespace IsOneToOne

lemma get?_dropPeer (h : table.IsOneToOne) (peer : Peer) (other : Octets) :
    (table.dropPeer peer).byId.get? other =
      if table.peer? other = some peer then none else table.byId.get? other := by
  unfold ForwardTable.dropPeer
  cases hget : table.byPeer.get? peer with
  | none =>
    have hnot : ¬ table.peer? other = some peer := by
      rw [h.inverse, id?, hget]
      simp
    rw [if_neg hnot]
  | some old =>
    have hiff : table.peer? other = some peer ↔ other = old := by
      rw [h.inverse, id?, hget, Option.some.injEq, eq_comm]
    rw [Index.get?_erase]
    simp only [hiff]

/-- A forward is noted in the entry of its id, which a reply to the same mapping stays in. -/
lemma get?_insert (h : table.IsOneToOne) (peer : Peer) (id : Octets) (now : Nat) (other : Octets) :
    (table.insert peer id now).1.byId.get? other =
      if other = id then
        some { peer, lastForward := now
               lastReply := if table.peer? id = some peer then (table.byId.get? id).bind (·.lastReply)
                 else none }
      else if table.peer? other = some peer then none
      else table.byId.get? other := by
  have hfresh (hid : table.peer? id ≠ some peer) :
      (((table.dropId id).dropPeer peer).link peer id now).byId.get? other =
        if other = id then some { peer, lastForward := now, lastReply := none }
        else if table.peer? other = some peer then none
        else table.byId.get? other := by
    rw [ForwardTable.link, Index.get?_put, (h.dropId id).1.get?_dropPeer, get?_dropId]
    by_cases hother : other = id
    · rw [if_pos hother, if_pos hother]
    · have hpeer : (table.dropId id).peer? other = table.peer? other := by
        rw [peer?, get?_dropId, if_neg hother, peer?]
      rw [if_neg hother, if_neg hother, if_neg hother, hpeer]
  unfold ForwardTable.insert
  cases hget : table.byId.get? id with
  | none =>
    have hid : table.peer? id ≠ some peer := by simp [peer?, hget]
    have hdrop : table.dropId id = table := by rw [ForwardTable.dropId, hget]
    rw [if_neg hid, ← hfresh hid, hdrop]
  | some entry =>
    dsimp only
    by_cases hentry : entry.peer = peer
    · have hid : table.peer? id = some peer := by simp [peer?, hget, hentry]
      rw [if_pos hentry, if_pos hid, Index.get?_put]
      by_cases hother : other = id
      · simp [hother, hentry]
      · have hpeer : ¬ table.peer? other = some peer := fun hp => hother (h.peer_unique hid hp)
        rw [if_neg hother, if_neg hother, if_neg hpeer]
    · have hid : table.peer? id ≠ some peer := by simp [peer?, hget, hentry]
      rw [if_neg hentry, if_neg hid, hfresh hid]

/-! ## Sweeps -/

variable {now handshakeTimeout udpTimeout : Nat}

/-- A sweep reports the mappings that have expired. -/
lemma mem_expired_sweep_iff (h : table.IsOneToOne) :
    (id, peer) ∈ (table.sweep now handshakeTimeout udpTimeout).expired ↔
      ∃ entry, table.byId.get? id = some entry ∧ entry.peer = peer ∧
        entry.expiresAt handshakeTimeout udpTimeout ≤ now := by
  simp [ForwardTable.sweep, List.partition_eq_filter_filter, h.byId_isKeyed.get?_eq_some_iff,
    and_comm, and_left_comm]

/-- It takes their entries. -/
lemma get?_sweep (h : table.IsOneToOne) (now handshakeTimeout udpTimeout : Nat) (id : Octets) :
    (table.sweep now handshakeTimeout udpTimeout).table.byId.get? id =
      (table.byId.get? id).filter (now < ·.expiresAt handshakeTimeout udpTimeout) := by
  have hexpired : id ∈ (table.sweep now handshakeTimeout udpTimeout).expired.map Prod.fst ↔
      ∃ entry, table.byId.get? id = some entry ∧
        entry.expiresAt handshakeTimeout udpTimeout ≤ now := by
    simp [List.mem_map, h.mem_expired_sweep_iff]
  rw [ForwardTable.sweep] at hexpired ⊢
  dsimp only at hexpired ⊢
  rw [get?_foldl_remove]
  simp only [hexpired]
  cases hget : table.byId.get? id with
  | none => simp
  | some entry =>
    by_cases hdue : entry.expiresAt handshakeTimeout udpTimeout ≤ now
    · simp [Option.filter, hdue]
    · simp [Option.filter, hdue, not_le.1 hdue]

/-- What a sweep leaves has its entry still, and that has not expired. -/
lemma get?_of_get?_sweep (h : table.IsOneToOne) {entry : Forward}
    (hget : (table.sweep now handshakeTimeout udpTimeout).table.byId.get? id = some entry) :
    table.byId.get? id = some entry ∧ now < entry.expiresAt handshakeTimeout udpTimeout := by
  rw [h.get?_sweep, Option.filter_eq_some_iff] at hget
  exact ⟨hget.1, by simpa using hget.2⟩

/-- A sweep foretells when the next of the remaining mappings expires, if one remains. -/
lemma next_sweep (h : table.IsOneToOne) (now handshakeTimeout udpTimeout : Nat) :
    let swept := table.sweep now handshakeTimeout udpTimeout
    (∀ next, swept.next = some next ↔
        (∃ id entry, swept.table.byId.get? id = some entry ∧
          entry.expiresAt handshakeTimeout udpTimeout = next) ∧
        ∀ id entry, swept.table.byId.get? id = some entry →
          next ≤ entry.expiresAt handshakeTimeout udpTimeout) ∧
      (swept.next = none ↔ ∀ id, swept.table.byId.get? id = none) := by
  intro swept
  set times := (table.byId.entries.filter fun mapping =>
    !decide (mapping.2.expiresAt handshakeTimeout udpTimeout ≤ now)).map fun mapping =>
      mapping.2.expiresAt handshakeTimeout udpTimeout with htimes
  have hnext : swept.next = times.min? := by
    rw [← earliest?_eq_min?, htimes]
    simp only [swept, ForwardTable.sweep, List.partition_eq_filter_filter]
    rfl
  have hmem (time : Nat) : time ∈ times ↔ ∃ id entry, swept.table.byId.get? id = some entry ∧
      entry.expiresAt handshakeTimeout udpTimeout = time := by
    simp [htimes, swept, h.get?_sweep, h.byId_isKeyed.get?_eq_some_iff, and_assoc]
  refine ⟨fun next => ?_, ?_⟩
  · rw [hnext, List.min?_eq_some_iff, hmem]
    refine and_congr_right fun _ => ⟨fun hle id entry hget => ?_, fun hle time htime => ?_⟩
    · exact hle _ ((hmem _).2 ⟨id, entry, hget, rfl⟩)
    · obtain ⟨id, entry, hget, rfl⟩ := (hmem _).1 htime
      exact hle id entry hget
  · rw [hnext, List.min?_eq_none_iff, List.eq_nil_iff_forall_not_mem]
    simp only [hmem, Option.eq_none_iff_forall_ne_some]
    constructor
    · exact fun hnone id entry hget => hnone _ ⟨id, entry, hget, rfl⟩
    · rintro hnone time ⟨id, entry, hget, -⟩
      exact hnone id entry hget

/-- The clock reaches a sweep if it reaches the expiry of every mapping. -/
lemma outlastsClock_eq_false_iff (h : table.IsOneToOne) :
    table.outlastsClock handshakeTimeout udpTimeout = false ↔
      ∀ id entry, table.byId.get? id = some entry →
        entry.expiresAt handshakeTimeout udpTimeout < clockEnd := by
  simp [ForwardTable.outlastsClock, h.byId_isKeyed.get?_eq_some_iff]

end IsOneToOne

/-! ## Whole operations -/

namespace Operation

/-- When an operation takes place. -/
def now : Operation → Nat
  | insert _ _ now | gotReply _ now | sweep now _ _ => now

/-- Whether an operation notes an answer to an id. -/
def Answers (id : Octets) : Operation → Prop
  | gotReply id' _ => id' = id
  | _ => False

instance (id : Octets) (peer : Peer) : (operation : Operation) → Decidable (operation.Links id peer)
  | insert peer' id' _ => inferInstanceAs (Decidable (id' = id ∧ peer' = peer))
  | gotReply _ _ | sweep _ _ _ => inferInstanceAs (Decidable False)

instance (id : Octets) : (operation : Operation) → Decidable (operation.Answers id)
  | gotReply id' _ => inferInstanceAs (Decidable (id' = id))
  | insert _ _ _ | sweep _ _ _ => inferInstanceAs (Decidable False)

end Operation

/-- A sweep leaves no entries but those that were there. -/
lemma IsOneToOne.get?_of_get?_perform_sweep (h : table.IsOneToOne)
    {now handshakeTimeout udpTimeout : Nat} {entry : Forward}
    (hget : (table.perform (.sweep now handshakeTimeout udpTimeout)).byId.get? id = some entry) :
    table.byId.get? id = some entry := by
  rw [ForwardTable.perform] at hget
  cases hswept : table.sweepInReach? now handshakeTimeout udpTimeout with
  | none => rwa [hswept] at hget
  | some swept =>
    obtain ⟨-, rfl⟩ := sweepInReach?_eq_some_iff.1 hswept
    rw [hswept] at hget
    exact (h.get?_of_get?_sweep hget).1

/-- What a sweep reports has expired. -/
lemma IsOneToOne.exists_of_mem_reported_sweep (h : table.IsOneToOne)
    {now handshakeTimeout udpTimeout : Nat}
    (hmem : (id, peer) ∈ table.reported (.sweep now handshakeTimeout udpTimeout)) :
    ∃ entry, table.byId.get? id = some entry ∧ entry.peer = peer ∧
      entry.expiresAt handshakeTimeout udpTimeout ≤ now := by
  rw [reported] at hmem
  cases hswept : table.sweepInReach? now handshakeTimeout udpTimeout with
  | none => simp [hswept] at hmem
  | some swept =>
    obtain ⟨-, rfl⟩ := sweepInReach?_eq_some_iff.1 hswept
    rw [hswept] at hmem
    exact h.mem_expired_sweep_iff.1 hmem

/-- An entry after an operation was there before, or it is heard of: by a forward, which keeps the
reply of an older entry at most, or by a reply. -/
lemma IsOneToOne.of_get?_perform (h : table.IsOneToOne) {operation : Operation} {entry : Forward}
    (hget : (table.perform operation).byId.get? id = some entry) :
    table.byId.get? id = some entry ∨
      (entry.lastForward = operation.now ∧ (entry.lastReply = none ∨
        ∃ old, table.byId.get? id = some old ∧ entry.lastReply = old.lastReply)) ∨
      operation.Answers id ∧ ∃ old, table.byId.get? id = some old ∧
        entry = { old with lastReply := some operation.now } := by
  cases operation with
  | insert peer id' now =>
    rw [ForwardTable.perform, h.get?_insert] at hget
    split at hget
    · rename_i hid
      obtain rfl := Option.some.inj hget
      refine .inr (.inl ⟨rfl, ?_⟩)
      dsimp only
      split
      · rename_i hmapped
        obtain ⟨old, hold, -⟩ := peer?_eq_some_iff.1 hmapped
        exact .inr ⟨old, hid ▸ hold, by rw [hold]; rfl⟩
      · exact .inl rfl
    · split at hget
      · cases hget
      · exact .inl hget
  | gotReply id' now =>
    rw [ForwardTable.perform, get?_gotReply] at hget
    split at hget
    · rename_i hid
      obtain ⟨old, hold, rfl⟩ := Option.map_eq_some_iff.1 hget
      exact .inr (.inr ⟨hid.symm, old, hid ▸ hold, rfl⟩)
    · exact .inl hget
  | sweep now handshakeTimeout udpTimeout =>
    exact .inl (h.get?_of_get?_perform_sweep hget)

/-- An entry after an operation was there before, or it is heard of now. -/
lemma IsOneToOne.isHeardAt_of_perform (h : table.IsOneToOne) {operation : Operation}
    {entry : Forward} (hget : (table.perform operation).byId.get? id = some entry) :
    table.byId.get? id = some entry ∨ entry.IsHeardAt operation.now := by
  rcases h.of_get?_perform hget with hbefore | ⟨hforward, -⟩ | ⟨-, old, -, rfl⟩
  · exact .inl hbefore
  · exact .inr (.inl hforward)
  · exact .inr (.inr rfl)

/-- Nothing is heard of in the future. -/
lemma IsOneToOne.isHeardBy_of_perform (h : table.IsOneToOne) {operation : Operation}
    (hbefore : ∀ entry, table.byId.get? id = some entry → entry.IsHeardBy operation.now)
    {entry : Forward} (hget : (table.perform operation).byId.get? id = some entry) :
    entry.IsHeardBy operation.now := by
  rcases h.of_get?_perform hget with
    hsame | ⟨hforward, hnone | ⟨old, hold, hreply⟩⟩ | ⟨-, old, hold, rfl⟩
  · exact hbefore entry hsame
  · exact ⟨hforward.le, by simp [hnone]⟩
  · exact ⟨hforward.le, hreply ▸ (hbefore old hold).2⟩
  · exact ⟨(hbefore old hold).1, by simp⟩

/-- No operation puts a last forward back. -/
lemma IsOneToOne.le_lastForward_of_perform (h : table.IsOneToOne) {operation : Operation}
    {since : Nat} (hsince : since ≤ operation.now)
    (hbefore : ∀ entry, table.byId.get? id = some entry → since ≤ entry.lastForward)
    {entry : Forward} (hget : (table.perform operation).byId.get? id = some entry) :
    since ≤ entry.lastForward := by
  rcases h.of_get?_perform hget with hsame | ⟨hforward, -⟩ | ⟨-, old, hold, rfl⟩
  · exact hbefore entry hsame
  · exact hforward ▸ hsince
  · exact hbefore old hold

/-! ## What the entries mean -/

/-- When a package was last forwarded for a pair. -/
def forwardTime? (history : List (Step ForwardTable Operation)) (id : Octets) (peer : Peer) :
    Option Nat :=
  lastTime? Operation.now (fun step => step.action.Links id peer) history

/-- When the spa last answered a pair since the two were mapped. -/
def replyTime? (history : List (Step ForwardTable Operation)) (id : Octets) (peer : Peer) :
    Option Nat :=
  lastTime? Operation.now (fun step => step.action.Answers id)
    (history.rtakeWhile fun step => step.before.peer? id = some peer)

/-- When the mapping of a pair expires by its history: a handshake timeout after its last forward
while the spa has not answered it, else a udp timeout after its last forward or answer. -/
def expiry? (handshakeTimeout udpTimeout : Nat) (history : List (Step ForwardTable Operation))
    (id : Octets) (peer : Peer) : Option Nat :=
  (forwardTime? history id peer).map fun forwarded =>
    match replyTime? history id peer with
    | none => forwarded + handshakeTimeout
    | some replied => max replied forwarded + udpTimeout

lemma forwardTime?_concat (history : List (Step ForwardTable Operation))
    (step : Step ForwardTable Operation) (id : Octets) (peer : Peer) :
    forwardTime? (history ++ [step]) id peer =
      if step.action.Links id peer then some step.action.now else forwardTime? history id peer := by
  rw [forwardTime?, lastTime?_concat]
  simp only [decide_eq_true_eq]
  rfl

lemma replyTime?_concat (history : List (Step ForwardTable Operation))
    (step : Step ForwardTable Operation) (id : Octets) (peer : Peer) :
    replyTime? (history ++ [step]) id peer =
      if step.before.peer? id = some peer then
        if step.action.Answers id then some step.action.now else replyTime? history id peer
      else none := by
  rw [replyTime?, List.rtakeWhile_concat]
  by_cases hmapped : step.before.peer? id = some peer
  · simp only [hmapped, decide_true, if_true, lastTime?_concat, decide_eq_true_eq]
    rfl
  · simp [hmapped, lastTime?]

/-- The times in an entry are those of the last forward and, since the mapping was made, of the last
answer. -/
lemma times_of_get? (operations : List Operation) {entry : Forward}
    (hget : (ofOperations operations).byId.get? id = some entry) :
    forwardTime? (history operations) id entry.peer = some entry.lastForward ∧
      replyTime? (history operations) id entry.peer = entry.lastReply := by
  induction operations using List.reverseRecOn generalizing entry with
  | nil => simp [ofOperations, Index.get?] at hget
  | append_singleton operations operation ih =>
    have hone := isOneToOne_ofOperations operations
    rw [history, steps_concat, ← history, ← ofOperations, forwardTime?_concat, replyTime?_concat]
    rw [ofOperations, List.foldl_append, List.foldl_cons, List.foldl_nil, ← ofOperations] at hget
    set table := ofOperations operations
    -- an entry that the operation does not concern keeps its times
    have hkept (hbefore : table.byId.get? id = some entry)
        (hlinks : ¬ operation.Links id entry.peer) (hanswers : ¬ operation.Answers id) :
        (if operation.Links id entry.peer then some operation.now
            else forwardTime? (history operations) id entry.peer) = some entry.lastForward ∧
          (if table.peer? id = some entry.peer then
            if operation.Answers id then some operation.now
              else replyTime? (history operations) id entry.peer
            else none) = entry.lastReply := by
      have hmapped : table.peer? id = some entry.peer := by simp [peer?, hbefore]
      rw [if_neg hlinks, if_pos hmapped, if_neg hanswers]
      exact ih hbefore
    cases operation with
    | insert peer id' now =>
      rw [perform, hone.get?_insert] at hget
      split at hget
      · rename_i hid
        subst hid
        obtain rfl := Option.some.inj hget
        rw [if_pos ⟨rfl, rfl⟩]
        refine ⟨rfl, ?_⟩
        dsimp only
        by_cases hmapped : table.peer? id = some peer
        · obtain ⟨old, hold, hpeer⟩ := peer?_eq_some_iff.1 hmapped
          have hanswers : ¬ (Operation.insert peer id now).Answers id := not_false
          rw [if_pos hmapped, if_pos hmapped, if_neg hanswers, hold, ← hpeer]
          exact (ih hold).2
        · rw [if_neg hmapped, if_neg hmapped]
      · rename_i hid
        split at hget
        · cases hget
        · exact hkept hget (fun hlinks => hid hlinks.1.symm) not_false
    | gotReply id' now =>
      rw [perform, get?_gotReply] at hget
      split at hget
      · rename_i hid
        subst hid
        obtain ⟨old, hold, rfl⟩ := Option.map_eq_some_iff.1 hget
        have hmapped : table.peer? id = some old.peer := by simp [peer?, hold]
        have hlinks : ¬ (Operation.gotReply id now).Links id old.peer := not_false
        have hanswers : (Operation.gotReply id now).Answers id := rfl
        rw [if_neg hlinks, if_pos hmapped, if_pos hanswers]
        exact ⟨(ih hold).1, rfl⟩
      · rename_i hid
        exact hkept hget not_false fun hanswers => hid hanswers.symm
    | sweep now handshakeTimeout udpTimeout =>
      exact hkept (hone.get?_of_get?_perform_sweep hget) not_false not_false

/-- **The entries of a table know when its mappings expire.** -/
theorem expiry?_eq_of_get? (operations : List Operation) (handshakeTimeout udpTimeout : Nat)
    {entry : Forward} (hget : (ofOperations operations).byId.get? id = some entry) :
    expiry? handshakeTimeout udpTimeout (history operations) id entry.peer =
      some (entry.expiresAt handshakeTimeout udpTimeout) := by
  obtain ⟨hforward, hreply⟩ := times_of_get? operations hget
  rw [expiry?, hforward, hreply, Option.map_some, Forward.expiresAt]
  cases entry.lastReply <;> rfl

end ForwardTable

end SpaGateway
