import Mathlib.Tactic
import SpaGateway.Proofs.Forward.Expiry

/-!
# What a sweep removes

A sweep has to know when each mapping expires, and it goes by the times that the entries hold.  The
history of the table says the same without them (`ForwardTable.expiry?`), so what a sweep is to do
can be said of any table by its history alone: `ForwardTable.Sweep.IsExact` lists it.

`ForwardTable.isExact_sweep` says that every sweep after every history does just that, and that the
next one finds nothing to do before the time that this one foretold.  It does so without an end of
the clock.  A sweep computes the expiry of every mapping, and comes to nothing if one of them is out
of the clock's reach.  `ForwardTable.sweeps_exactly_iff` says that it comes to a result, and to an
exact one, exactly if the clock reaches them all.
-/

namespace SpaGateway

namespace ForwardTable

variable {table : ForwardTable} {now handshakeTimeout udpTimeout : Nat}

/-- What a sweep of a table at a time is to do, given when each mapping expires. -/
structure Sweep.IsExact (swept : Sweep) (table : ForwardTable) (now : Nat)
    (expiry? : Octets → Peer → Option Nat) : Prop where
  /-- Every mapping has its time. -/
  isSome_expiry? : ∀ id peer, table.peer? id = some peer → (expiry? id peer).isSome
  /-- It reports what has expired, each mapping once. -/
  nodup_expired : swept.expired.Nodup
  mem_expired_iff : ∀ id peer, (id, peer) ∈ swept.expired ↔
    table.peer? id = some peer ∧ ∃ time ∈ expiry? id peer, time ≤ now
  /-- It takes what it reports out of both indexes, and nothing else. -/
  peer?_iff : ∀ id peer, swept.table.peer? id = some peer ↔
    table.peer? id = some peer ∧ (id, peer) ∉ swept.expired
  id?_iff : ∀ id peer, swept.table.id? peer = some id ↔
    table.id? peer = some id ∧ (id, peer) ∉ swept.expired
  size_add : swept.table.size + swept.expired.length = table.size
  /-- It foretells the first expiry among what remains, if anything does. -/
  next_eq_some_iff : ∀ next, swept.next = some next ↔
    (∃ id peer, swept.table.peer? id = some peer ∧ expiry? id peer = some next) ∧
      ∀ id peer, swept.table.peer? id = some peer → ∀ time ∈ expiry? id peer, next ≤ time
  next_eq_none_iff : swept.next = none ↔ swept.table.size = 0
  /-- That is yet to come. -/
  lt_next : ∀ next ∈ swept.next, now < next

/-! ## Sweeps by the entries -/

namespace IsOneToOne

lemma size_eq_zero_iff (h : table.IsOneToOne) :
    table.size = 0 ↔ ∀ id, table.byId.get? id = none := by
  rw [size, Index.size, List.length_eq_zero_iff, List.eq_nil_iff_forall_not_mem]
  simp only [Option.eq_none_iff_forall_ne_some, ne_eq, h.byId_isKeyed.get?_eq_some_iff]
  exact ⟨fun hnone id entry => hnone (id, entry), fun hnone mapping => hnone mapping.1 mapping.2⟩

/-- No mapping is reported twice. -/
lemma nodup_expired (h : table.IsOneToOne) (now handshakeTimeout udpTimeout : Nat) :
    (table.sweep now handshakeTimeout udpTimeout).expired.Nodup := by
  have hkeys : ((table.sweep now handshakeTimeout udpTimeout).expired.map Prod.fst).Nodup := by
    simp only [ForwardTable.sweep, List.partition_eq_filter_filter, List.map_map]
    exact h.byId_isKeyed.sublist (List.filter_sublist.map _)
  exact hkeys.of_map _

/-- What is taken from an index without double keys is missing from its size. -/
lemma size_sweep_add (h : table.IsOneToOne) (now handshakeTimeout udpTimeout : Nat) :
    (table.sweep now handshakeTimeout udpTimeout).table.size +
      (table.sweep now handshakeTimeout udpTimeout).expired.length = table.size := by
  set swept := table.sweep now handshakeTimeout udpTimeout with hswept
  obtain ⟨hone, hpeer⟩ := h.sweep now handshakeTimeout udpTimeout
  obtain ⟨before, hbefore, hsize, -, hmem⟩ := h.exists_mappings
  obtain ⟨after, hafter, hsize', -, hmem'⟩ := hone.exists_mappings
  have hperm : (after ++ swept.expired).Perm before := by
    have hapart : (after ++ swept.expired).Nodup := by
      refine hafter.append (h.nodup_expired _ _ _) ?_
      rintro ⟨id, peer⟩ hin hout
      exact ((hpeer id peer).1 ((hmem' id peer).1 hin)).2 hout
    rw [List.perm_ext_iff_of_nodup hapart hbefore]
    rintro ⟨id, peer⟩
    rw [List.mem_append, hmem', hmem, hpeer]
    constructor
    · rintro (hkept | hexpired)
      · exact hkept.1
      · exact h.peer?_of_mem_expired hexpired
    · intro hmapped
      by_cases hexpired : (id, peer) ∈ swept.expired
      · exact .inr hexpired
      · exact .inl ⟨hmapped, hexpired⟩
  rw [size, size, ← hsize, ← hsize', ← hperm.length_eq, List.length_append]

/-- While nothing has expired, a sweep changes nothing. -/
lemma sweep_of_lt (h : table.IsOneToOne)
    (hlater : ∀ id entry, table.byId.get? id = some entry →
      now < entry.expiresAt handshakeTimeout udpTimeout) :
    (table.sweep now handshakeTimeout udpTimeout).expired = [] ∧
      (table.sweep now handshakeTimeout udpTimeout).table = table := by
  have hnone : (table.sweep now handshakeTimeout udpTimeout).expired = [] := by
    rw [List.eq_nil_iff_forall_not_mem]
    rintro ⟨id, peer⟩ hmem
    obtain ⟨entry, hget, -, hdue⟩ := h.mem_expired_sweep_iff.1 hmem
    exact (hlater id entry hget).not_ge hdue
  refine ⟨hnone, ?_⟩
  have htable : (table.sweep now handshakeTimeout udpTimeout).table =
      (table.sweep now handshakeTimeout udpTimeout).expired.foldl
        (fun table mapping => table.remove mapping.1 mapping.2) table := rfl
  rw [htable, hnone, List.foldl_nil]

end IsOneToOne

/-! ## Sweeps by the history -/

section

variable (operations : List Operation) (now handshakeTimeout udpTimeout : Nat)

/-- What is reported is what has expired by the history. -/
lemma mem_expired_iff_expiry? (id : Octets) (peer : Peer) :
    (id, peer) ∈ ((ofOperations operations).sweep now handshakeTimeout udpTimeout).expired ↔
      (ofOperations operations).peer? id = some peer ∧
        ∃ time ∈ expiry? handshakeTimeout udpTimeout (history operations) id peer, time ≤ now := by
  rw [(isOneToOne_ofOperations operations).mem_expired_sweep_iff]
  constructor
  · rintro ⟨entry, hget, rfl, hdue⟩
    exact ⟨peer?_eq_some_iff.2 ⟨entry, hget, rfl⟩, _,
      expiry?_eq_of_get? operations handshakeTimeout udpTimeout hget, hdue⟩
  · rintro ⟨hmapped, time, htime, hdue⟩
    obtain ⟨entry, hget, rfl⟩ := peer?_eq_some_iff.1 hmapped
    rw [expiry?_eq_of_get? operations handshakeTimeout udpTimeout hget] at htime
    obtain rfl := Option.some.inj htime
    exact ⟨entry, hget, rfl, hdue⟩

/-- What is foretold is the first expiry, by the history, of what remains. -/
lemma next_sweep_eq_some_iff_expiry? (next : Nat) :
    let swept := (ofOperations operations).sweep now handshakeTimeout udpTimeout
    let expiry? := expiry? handshakeTimeout udpTimeout (history operations)
    swept.next = some next ↔
      (∃ id peer, swept.table.peer? id = some peer ∧ expiry? id peer = some next) ∧
        ∀ id peer, swept.table.peer? id = some peer → ∀ time ∈ expiry? id peer, next ≤ time := by
  intro swept expiry?
  have h : (ofOperations operations).IsOneToOne := isOneToOne_ofOperations operations
  have hexpiry {id : Octets} {entry : Forward} (hget : swept.table.byId.get? id = some entry) :
      expiry? id entry.peer = some (entry.expiresAt handshakeTimeout udpTimeout) :=
    expiry?_eq_of_get? operations handshakeTimeout udpTimeout (h.get?_of_get?_sweep hget).1
  rw [(h.next_sweep now handshakeTimeout udpTimeout).1 next]
  constructor
  · rintro ⟨⟨id, entry, hget, rfl⟩, hall⟩
    refine ⟨⟨id, entry.peer, peer?_eq_some_iff.2 ⟨entry, hget, rfl⟩, hexpiry hget⟩,
      fun id' peer' hmapped time htime => ?_⟩
    obtain ⟨entry', hget', rfl⟩ := peer?_eq_some_iff.1 hmapped
    obtain rfl := Option.some.inj ((hexpiry hget').symm.trans htime)
    exact hall id' entry' hget'
  · rintro ⟨⟨id, peer, hmapped, htime⟩, hall⟩
    obtain ⟨entry, hget, rfl⟩ := peer?_eq_some_iff.1 hmapped
    obtain rfl := Option.some.inj ((hexpiry hget).symm.trans htime)
    refine ⟨⟨id, entry, hget, rfl⟩, fun id' entry' hget' => ?_⟩
    exact hall id' entry'.peer (peer?_eq_some_iff.2 ⟨entry', hget', rfl⟩) _ (hexpiry hget')

end

/-- **A sweep removes exactly what is due and foretells the next expiry.**  Whatever was done to a
new table and at whatever times, a sweep of it is exact by its history.  Until the time that it
foretold, or ever if it foretold none, another sweep right after it reports nothing and changes
nothing. -/
theorem isExact_sweep (operations : List Operation) (now handshakeTimeout udpTimeout : Nat) :
    let table := ofOperations operations
    let swept := table.sweep now handshakeTimeout udpTimeout
    swept.IsExact table now (expiry? handshakeTimeout udpTimeout (history operations)) ∧
      ∀ later, (∀ next ∈ swept.next, later < next) →
        (swept.table.sweep later handshakeTimeout udpTimeout).expired = [] ∧
          (swept.table.sweep later handshakeTimeout udpTimeout).table = swept.table := by
  intro table swept
  have h : table.IsOneToOne := isOneToOne_ofOperations operations
  obtain ⟨hone, hpeer⟩ := h.sweep now handshakeTimeout udpTimeout
  obtain ⟨hsome, hnone⟩ := h.next_sweep now handshakeTimeout udpTimeout
  refine ⟨⟨fun id peer hmapped => ?_, h.nodup_expired _ _ _,
    mem_expired_iff_expiry? operations now handshakeTimeout udpTimeout, hpeer,
    fun id peer => ?_, h.size_sweep_add _ _ _,
    next_sweep_eq_some_iff_expiry? operations now handshakeTimeout udpTimeout, ?_,
    fun next hnext => ?_⟩, fun later hlater => ?_⟩
  · obtain ⟨entry, hget, rfl⟩ := peer?_eq_some_iff.1 hmapped
    rw [expiry?_eq_of_get? operations handshakeTimeout udpTimeout hget]
    rfl
  · rw [← hone.inverse, hpeer, h.inverse]
  · rw [hnone, hone.size_eq_zero_iff]
  · obtain ⟨⟨id, entry, hget, rfl⟩, -⟩ := (hsome next).1 hnext
    exact (h.get?_of_get?_sweep hget).2
  · refine hone.sweep_of_lt fun id entry hget => ?_
    cases hnext : swept.next with
    | none =>
      rw [hnone.1 hnext id] at hget
      cases hget
    | some next => exact (hlater next hnext).trans_le (((hsome next).1 hnext).2 id entry hget)

/-! ## The end of the clock -/

/-- By the history, the clock reaches a sweep if it reaches the expiry of every mapping. -/
lemma outlastsClock_eq_false_iff_expiry? (operations : List Operation)
    (handshakeTimeout udpTimeout : Nat) :
    (ofOperations operations).outlastsClock handshakeTimeout udpTimeout = false ↔
      ∀ id peer, (ofOperations operations).peer? id = some peer →
        ∀ time ∈ expiry? handshakeTimeout udpTimeout (history operations) id peer,
          time < clockEnd := by
  rw [(isOneToOne_ofOperations operations).outlastsClock_eq_false_iff]
  constructor
  · rintro hreach id peer hmapped time htime
    obtain ⟨entry, hget, rfl⟩ := peer?_eq_some_iff.1 hmapped
    rw [expiry?_eq_of_get? operations handshakeTimeout udpTimeout hget] at htime
    obtain rfl := Option.some.inj htime
    exact hreach id entry hget
  · intro hreach id entry hget
    exact hreach id entry.peer (peer?_eq_some_iff.2 ⟨entry, hget, rfl⟩) _
      (expiry?_eq_of_get? operations handshakeTimeout udpTimeout hget)

/-- What a sweep leaves is no further out of reach than what it found. -/
lemma IsOneToOne.outlastsClock_sweep (h : table.IsOneToOne)
    (hreach : table.outlastsClock handshakeTimeout udpTimeout = false) :
    (table.sweep now handshakeTimeout udpTimeout).table.outlastsClock handshakeTimeout udpTimeout =
      false := by
  rw [(h.sweep now handshakeTimeout udpTimeout).1.outlastsClock_eq_false_iff]
  rw [h.outlastsClock_eq_false_iff] at hreach
  exact fun id entry hget => hreach id entry (h.get?_of_get?_sweep hget).1

/-- **A sweep comes to a result, and to an exact one, if the clock reaches every expiry.**  Whatever
was done to a new table and at whatever times, a sweep of it comes to a result that is exact by the
history, and so does each further one until the time that it foretold, which reports nothing and
changes nothing, exactly if no mapping of the table expires at a time out of reach. -/
theorem sweeps_exactly_iff (operations : List Operation) (now handshakeTimeout udpTimeout : Nat) :
    let table := ofOperations operations
    let expiry? := expiry? handshakeTimeout udpTimeout (history operations)
    (∃ swept, table.sweepInReach? now handshakeTimeout udpTimeout = some swept ∧
        swept.IsExact table now expiry? ∧
        ∀ later, (∀ next ∈ swept.next, later < next) →
          ∃ again, swept.table.sweepInReach? later handshakeTimeout udpTimeout = some again ∧
            again.expired = [] ∧ again.table = swept.table) ↔
      ∀ id peer, table.peer? id = some peer → ∀ time ∈ expiry? id peer, time < clockEnd := by
  intro table expiry?
  have h : table.IsOneToOne := isOneToOne_ofOperations operations
  rw [← outlastsClock_eq_false_iff_expiry?]
  constructor
  · rintro ⟨swept, hswept, -⟩
    exact (sweepInReach?_eq_some_iff.1 hswept).1
  · intro hreach
    obtain ⟨hexact, hlater⟩ := isExact_sweep operations now handshakeTimeout udpTimeout
    refine ⟨_, sweepInReach?_eq_some_iff.2 ⟨hreach, rfl⟩, hexact, fun later hnext => ?_⟩
    exact ⟨_, sweepInReach?_eq_some_iff.2 ⟨h.outlastsClock_sweep hreach, rfl⟩, hlater later hnext⟩

/-- A mapping that the spa answered outlasts the sweep that takes a silent one, and its expiry is
foretold. -/
example :
    let silent : Peer := .client (.v4 ⟨127, 0, 0, 1⟩ 1)
    let table := ofOperations
      [.insert silent [0x61] 0, .insert .gateway [0x62] 0, .gotReply [0x62] 4]
    (table.sweepInReach? 11 10 300).map (fun swept => (swept.expired, swept.next)) =
      some ([([0x61], silent)], some 304) := by
  decide

/-- With an endless udp timeout one mapping that the spa answered keeps every sweep from a result,
and with it the silent app whose mapping has expired. -/
theorem not_exact_of_endless_timeout :
    let silent : Peer := .client (.v4 ⟨127, 0, 0, 1⟩ 1)
    let operations : List Operation :=
      [.insert silent [0x61] 0, .insert .gateway [0x62] 0, .gotReply [0x62] 4]
    let table := ofOperations operations
    let endless : Nat := 18446744073709551615 * 1000
    let expiry? := expiry? 10000 endless (history operations)
    table.peer? [0x61] = some silent ∧ expiry? [0x61] silent = some 10000 ∧
      table.sweepInReach? 10000 10000 endless = none ∧
      ¬ ∃ swept, table.sweepInReach? 10000 10000 endless = some swept ∧
        swept.IsExact table 10000 expiry? := by
  intro silent operations table endless expiry?
  have hnone : table.sweepInReach? 10000 10000 endless = none := rfl
  exact ⟨rfl, by decide +kernel, hnone, by simp [hnone]⟩

end ForwardTable

end SpaGateway
