import Mathlib.Tactic
import SpaGateway.Forward

/-!
# The forward table

A forward table keeps its mappings twice, by id and by peer.  `ForwardTable.IsOneToOne` says that
the two indexes are inverse of each other and that neither holds a key twice.  Every operation keeps
it, and on a one-to-one table each has a single effect on the mappings: a forward maps its pair and
nothing else of either side, a reply changes no mapping, and a sweep removes what it reports.
-/

namespace SpaGateway

/-! ## Indexes -/

namespace Index

variable {α β : Type}

/-- No key stands in two pairs. -/
def IsKeyed (index : Index α β) : Prop := (index.entries.map Prod.fst).Nodup

lemma isKeyed_empty : IsKeyed ({} : Index α β) := List.nodup_nil

variable [DecidableEq α] {index : Index α β}

lemma IsKeyed.erase (h : index.IsKeyed) (key : α) : (index.erase key).IsKeyed :=
  h.sublist (List.filter_sublist.map _)

lemma IsKeyed.put (h : index.IsKeyed) (key : α) (value : β) : (index.put key value).IsKeyed := by
  rw [IsKeyed, Index.put, List.map_cons, List.nodup_cons]
  refine ⟨?_, h.erase key⟩
  simp [Index.erase]

/-- In an index without double keys, to look up a key is to find its pair. -/
lemma IsKeyed.get?_eq_some_iff (h : index.IsKeyed) {key : α} {value : β} :
    index.get? key = some value ↔ (key, value) ∈ index.entries := by
  rw [get?, Option.map_eq_some_iff]
  constructor
  · rintro ⟨pair, hfind, rfl⟩
    have hkey : pair.1 = key := by simpa using List.find?_some hfind
    rw [← hkey]
    exact List.mem_of_find?_eq_some hfind
  · intro hmem
    have hsome : (index.entries.find? (·.1 = key)).isSome :=
      List.find?_isSome.2 ⟨_, hmem, by simp⟩
    obtain ⟨pair, hfind⟩ := Option.isSome_iff_exists.1 hsome
    have hkey : pair.1 = key := by simpa using List.find?_some hfind
    have hpair : pair = (key, value) :=
      List.inj_on_of_nodup_map h (List.mem_of_find?_eq_some hfind) hmem hkey
    exact ⟨pair, hfind, by rw [hpair]⟩

end Index

/-! ## One-to-one tables -/

namespace ForwardTable

/-- The two indexes of a table are inverse of each other, and neither holds a key twice. -/
structure IsOneToOne (table : ForwardTable) : Prop where
  inverse : ∀ id peer, table.peer? id = some peer ↔ table.id? peer = some id
  byId_isKeyed : table.byId.IsKeyed
  byPeer_isKeyed : table.byPeer.IsKeyed

lemma isOneToOne_empty : IsOneToOne {} :=
  ⟨by simp [peer?, id?, Index.get?], Index.isKeyed_empty, Index.isKeyed_empty⟩

variable {table : ForwardTable} {id other : Octets} {peer p : Peer}

lemma peer?_eq_some_iff : table.peer? id = some peer ↔
    ∃ entry, table.byId.get? id = some entry ∧ entry.peer = peer := Option.map_eq_some_iff

lemma insert_isNew_iff (table : ForwardTable) (peer : Peer) (id : Octets) (now : Nat) :
    (table.insert peer id now).2 = true ↔ table.peer? id ≠ some peer := by
  unfold ForwardTable.insert
  cases hget : table.byId.get? id with
  | none => simp [peer?, hget]
  | some entry => by_cases hentry : entry.peer = peer <;> simp [peer?, hget, hentry]

lemma snd_gotReply (table : ForwardTable) (id : Octets) (now : Nat) :
    (table.gotReply id now).2 = table.peer? id := by
  unfold gotReply peer?
  cases table.byId.get? id <;> rfl

lemma id?_gotReply (table : ForwardTable) (id : Octets) (now : Nat) (peer : Peer) :
    (table.gotReply id now).1.id? peer = table.id? peer := by
  unfold gotReply
  split <;> rfl

namespace IsOneToOne

/-- The mappings of a table, each once. -/
lemma exists_mappings (h : table.IsOneToOne) :
    ∃ mappings : List (Octets × Peer), mappings.Nodup ∧ mappings.length = table.byId.size ∧
      mappings.length = table.byPeer.size ∧
        ∀ id peer, (id, peer) ∈ mappings ↔ table.peer? id = some peer := by
  set mappings := table.byId.entries.map fun pair => (pair.1, pair.2.peer) with hmappings
  have hmem (id : Octets) (peer : Peer) : (id, peer) ∈ mappings ↔ table.peer? id = some peer := by
    simp [hmappings, peer?_eq_some_iff, h.byId_isKeyed.get?_eq_some_iff]
  have hnodup : mappings.Nodup := by
    have hkeys : (mappings.map Prod.fst).Nodup := by
      simpa [hmappings, Function.comp_def, Index.IsKeyed] using h.byId_isKeyed
    exact hkeys.of_map _
  -- read backwards, the mappings are the pairs of the other index
  have hperm : (mappings.map Prod.swap).Perm table.byPeer.entries := by
    rw [List.perm_ext_iff_of_nodup (hnodup.map Prod.swap_injective)
      (List.Nodup.of_map _ h.byPeer_isKeyed)]
    rintro ⟨peer, id⟩
    rw [List.mem_map_swap, hmem, h.inverse, id?, h.byPeer_isKeyed.get?_eq_some_iff]
  refine ⟨mappings, hnodup, by simp [hmappings, Index.size], ?_, hmem⟩
  simpa [Index.size] using hperm.length_eq

/-! ## Forwards -/

lemma peer_unique (h : table.IsOneToOne) (hid : table.peer? id = some peer)
    (hother : table.peer? other = some peer) : other = id := by
  rw [h.inverse] at hid hother
  exact Option.some.inj (hother.symm.trans hid)

lemma dropId (h : table.IsOneToOne) (id : Octets) : (table.dropId id).IsOneToOne ∧
    ∀ other p, (table.dropId id).peer? other = some p ↔
      table.peer? other = some p ∧ other ≠ id := by
  unfold ForwardTable.dropId
  cases hget : table.byId.get? id with
  | none =>
    refine ⟨h, fun other p => ⟨fun hother => ⟨hother, ?_⟩, And.left⟩⟩
    rintro rfl
    simp [peer?, hget] at hother
  | some old =>
    have hold : table.peer? id = some old.peer := by simp [peer?, hget]
    have hpeer (other : Octets) (p : Peer) :
        ForwardTable.peer? ⟨table.byId.erase id, table.byPeer.erase old.peer⟩ other = some p ↔
          table.peer? other = some p ∧ other ≠ id := by
      by_cases hother : other = id <;> simp [peer?, hother]
    refine ⟨⟨fun other p => ?_, h.byId_isKeyed.erase _, h.byPeer_isKeyed.erase _⟩, hpeer⟩
    rw [hpeer, h.inverse, id?, id?, Index.get?_erase]
    by_cases hp : p = old.peer
    · subst hp
      rw [← id?, (h.inverse _ _).1 hold]
      simp [eq_comm]
    · have hne : table.byPeer.get? p = some other → other ≠ id := by
        rintro hother rfl
        exact hp (Option.some.inj (((h.inverse _ _).2 hother).symm.trans hold))
      simpa [hp] using hne

lemma dropPeer (h : table.IsOneToOne) (peer : Peer) : (table.dropPeer peer).IsOneToOne ∧
    ∀ other p, (table.dropPeer peer).peer? other = some p ↔
      table.peer? other = some p ∧ p ≠ peer := by
  unfold ForwardTable.dropPeer
  cases hget : table.byPeer.get? peer with
  | none =>
    refine ⟨h, fun other p => ⟨fun hother => ⟨hother, ?_⟩, And.left⟩⟩
    rintro rfl
    rw [h.inverse, id?, hget] at hother
    cases hother
  | some old =>
    have hold : table.peer? old = some peer := (h.inverse _ _).2 hget
    have hpeer (other : Octets) (p : Peer) :
        ForwardTable.peer? ⟨table.byId.erase old, table.byPeer.erase peer⟩ other = some p ↔
          table.peer? other = some p ∧ p ≠ peer := by
      by_cases hother : other = old
      · subst hother
        rw [hold]
        simp [peer?, eq_comm]
      · have hne : table.peer? other = some p → p ≠ peer := by
          rintro hp rfl
          exact hother (h.peer_unique hold hp)
        simpa [peer?, hother] using hne
    refine ⟨⟨fun other p => ?_, h.byId_isKeyed.erase _, h.byPeer_isKeyed.erase _⟩, hpeer⟩
    rw [hpeer, h.inverse, id?, id?, Index.get?_erase]
    by_cases hp : p = peer <;> simp [hp]

lemma link (h : table.IsOneToOne) (hid : table.peer? id = none) (hpeer : table.id? peer = none)
    (now : Nat) : (table.link peer id now).IsOneToOne ∧
      ∀ other p, (table.link peer id now).peer? other = some p ↔
        other = id ∧ p = peer ∨ table.peer? other = some p := by
  have hlink (other : Octets) (p : Peer) : (table.link peer id now).peer? other = some p ↔
      other = id ∧ p = peer ∨ table.peer? other = some p := by
    by_cases hother : other = id
    · rw [hother, hid]
      simp [ForwardTable.link, peer?, eq_comm]
    · simp [ForwardTable.link, peer?, hother]
  refine ⟨⟨fun other p => ?_, h.byId_isKeyed.put _ _, h.byPeer_isKeyed.put _ _⟩, hlink⟩
  rw [hlink, h.inverse]
  by_cases hp : p = peer
  · rw [hp, hpeer]
    simp [ForwardTable.link, id?, eq_comm]
  · simp [ForwardTable.link, id?, hp]

/-- A note on the entry of an id changes no mapping. -/
lemma note (h : table.IsOneToOne) {entry : Forward} (hget : table.byId.get? id = some entry)
    (noted : Forward) (hnoted : noted.peer = entry.peer) :
    IsOneToOne { table with byId := table.byId.put id noted } ∧
      ∀ other, peer? { table with byId := table.byId.put id noted } other = table.peer? other := by
  have hpeer (other : Octets) :
      peer? { table with byId := table.byId.put id noted } other = table.peer? other := by
    by_cases hother : other = id <;> simp [peer?, hother, hget, hnoted]
  refine ⟨⟨fun other p => ?_, h.byId_isKeyed.put _ _, h.byPeer_isKeyed⟩, hpeer⟩
  rw [hpeer, h.inverse]
  rfl

/-- **A forward maps its pair** and drops the older mappings of either side. -/
lemma insert (h : table.IsOneToOne) (peer : Peer) (id : Octets) (now : Nat) :
    (table.insert peer id now).1.IsOneToOne ∧
      ∀ other p, (table.insert peer id now).1.peer? other = some p ↔
        other = id ∧ p = peer ∨ table.peer? other = some p ∧ other ≠ id ∧ p ≠ peer := by
  -- the mappings that neither side has are dropped before the new one is added
  have hfresh : (((table.dropId id).dropPeer peer).link peer id now).IsOneToOne ∧
      ∀ other p, (((table.dropId id).dropPeer peer).link peer id now).peer? other = some p ↔
        other = id ∧ p = peer ∨ table.peer? other = some p ∧ other ≠ id ∧ p ≠ peer := by
    obtain ⟨hdropped, hpeer⟩ := h.dropId id
    obtain ⟨hfree, hpeer'⟩ := hdropped.dropPeer peer
    have hid : ((table.dropId id).dropPeer peer).peer? id = none := by
      rw [Option.eq_none_iff_forall_ne_some]
      intro p hp
      exact ((hpeer _ _).1 ((hpeer' _ _).1 hp).1).2 rfl
    have hno : ((table.dropId id).dropPeer peer).id? peer = none := by
      rw [Option.eq_none_iff_forall_ne_some]
      intro other hother
      exact ((hpeer' _ _).1 ((hfree.inverse _ _).2 hother)).2 rfl
    obtain ⟨hlinked, hlink⟩ := hfree.link hid hno now
    refine ⟨hlinked, fun other p => ?_⟩
    rw [hlink, hpeer', hpeer, and_assoc]
  unfold ForwardTable.insert
  cases hget : table.byId.get? id with
  | none =>
    rwa [ForwardTable.dropId, hget] at hfresh
  | some entry =>
    dsimp only
    split
    · rename_i hentry
      have hid : table.peer? id = some peer := peer?_eq_some_iff.2 ⟨entry, hget, hentry⟩
      obtain ⟨hnoted, hpeer⟩ := h.note hget { entry with lastForward := now } rfl
      refine ⟨hnoted, fun other p => ?_⟩
      rw [hpeer]
      constructor
      · intro hother
        by_cases hid' : other = id
        · subst hid'
          exact .inl ⟨rfl, Option.some.inj (hother.symm.trans hid)⟩
        · refine .inr ⟨hother, hid', ?_⟩
          rintro rfl
          exact hid' (h.peer_unique hid hother)
      · rintro (⟨rfl, rfl⟩ | ⟨hother, -⟩)
        · exact hid
        · exact hother
    · exact hfresh

/-- **A reply changes no mapping**, and tells where it goes. -/
lemma gotReply (h : table.IsOneToOne) (id : Octets) (now : Nat) :
    (table.gotReply id now).1.IsOneToOne ∧ (table.gotReply id now).2 = table.peer? id ∧
      ∀ other, (table.gotReply id now).1.peer? other = table.peer? other := by
  unfold ForwardTable.gotReply
  cases hget : table.byId.get? id with
  | none => exact ⟨h, by simp [peer?, hget], fun _ => rfl⟩
  | some entry =>
    obtain ⟨hnoted, hpeer⟩ := h.note hget { entry with lastReply := some now } rfl
    exact ⟨hnoted, by simp [peer?, hget], hpeer⟩

/-! ## Sweeps -/

/-- To remove a pair removes its mapping, unless the id has gone to another peer. -/
lemma remove (h : table.IsOneToOne) (hid : ∀ p, table.peer? id = some p → p = peer) :
    (table.remove id peer).IsOneToOne ∧
      ∀ other p, (table.remove id peer).peer? other = some p ↔
        table.peer? other = some p ∧ (other, p) ≠ (id, peer) := by
  have hpeer (other : Octets) (p : Peer) : (table.remove id peer).peer? other = some p ↔
      table.peer? other = some p ∧ (other, p) ≠ (id, peer) := by
    by_cases hother : other = id
    · subst hother
      have hsame : ¬ (table.peer? other = some p ∧ p ≠ peer) := fun hp => hp.2 (hid p hp.1)
      simpa [ForwardTable.remove, peer?] using hsame
    · simp [ForwardTable.remove, peer?, hother]
  refine ⟨⟨fun other p => ?_, h.byId_isKeyed.erase _, ?_⟩, hpeer⟩
  · rw [hpeer, h.inverse]
    unfold ForwardTable.remove id?
    dsimp only
    split
    · rename_i hmapped
      rw [Index.get?_erase]
      by_cases hp : p = peer
      · subst hp
        simp [hmapped, eq_comm]
      · simp [hp]
    · rename_i hmapped
      constructor
      · exact And.left
      · refine fun hother => ⟨hother, ?_⟩
        rintro ⟨⟩
        exact hmapped hother
  · unfold ForwardTable.remove
    dsimp only
    split
    · exact h.byPeer_isKeyed.erase _
    · exact h.byPeer_isKeyed

lemma foldl_remove (h : table.IsOneToOne) {expired : List (Octets × Peer)}
    (hexpired : ∀ pair ∈ expired, ∀ p, table.peer? pair.1 = some p → p = pair.2) :
    (expired.foldl (fun table (id, peer) => table.remove id peer) table).IsOneToOne ∧
      ∀ other p, (expired.foldl (fun table (id, peer) => table.remove id peer) table).peer? other =
        some p ↔ table.peer? other = some p ∧ (other, p) ∉ expired := by
  induction expired generalizing table with
  | nil => exact ⟨h, by simp⟩
  | cons pair expired ih =>
    rw [List.forall_mem_cons] at hexpired
    obtain ⟨hremoved, hpeer⟩ := h.remove hexpired.1
    obtain ⟨hall, hpeers⟩ := ih hremoved fun pair' hpair' p hp =>
      hexpired.2 pair' hpair' p ((hpeer _ _).1 hp).1
    refine ⟨hall, fun other p => ?_⟩
    rw [List.foldl_cons, hpeers, hpeer, List.mem_cons, not_or, and_assoc]

/-- What a sweep reports was mapped. -/
lemma peer?_of_mem_expired (h : table.IsOneToOne) {now handshakeTimeout udpTimeout : Nat}
    (hmem : (id, peer) ∈ (table.sweep now handshakeTimeout udpTimeout).expired) :
    table.peer? id = some peer := by
  simp only [sweep, List.partition_eq_filter_filter, List.mem_map, List.mem_filter,
    Prod.mk.injEq, Prod.exists] at hmem
  obtain ⟨id', entry, ⟨hentry, -⟩, rfl, rfl⟩ := hmem
  exact peer?_eq_some_iff.2 ⟨entry, h.byId_isKeyed.get?_eq_some_iff.2 hentry, rfl⟩

/-- **A sweep removes what it reports**, and nothing else. -/
lemma sweep (h : table.IsOneToOne) (now handshakeTimeout udpTimeout : Nat) :
    (table.sweep now handshakeTimeout udpTimeout).table.IsOneToOne ∧
      ∀ id peer, (table.sweep now handshakeTimeout udpTimeout).table.peer? id = some peer ↔
        table.peer? id = some peer ∧
          (id, peer) ∉ (table.sweep now handshakeTimeout udpTimeout).expired := by
  refine h.foldl_remove fun pair hpair p hp => ?_
  exact Option.some.inj (hp.symm.trans (h.peer?_of_mem_expired hpair))

end IsOneToOne

/-- Within the clock, a sweep comes to what it comes to without an end of it. -/
lemma sweepInReach?_eq_some_iff {now handshakeTimeout udpTimeout : Nat} {swept : Sweep} :
    table.sweepInReach? now handshakeTimeout udpTimeout = some swept ↔
      table.outlastsClock handshakeTimeout udpTimeout = false ∧
        table.sweep now handshakeTimeout udpTimeout = swept := by
  rw [sweepInReach?]
  cases table.outlastsClock handshakeTimeout udpTimeout <;> simp

end ForwardTable

end SpaGateway
