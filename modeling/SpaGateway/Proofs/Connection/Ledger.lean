import Mathlib.Tactic
import SpaGateway.Connection.Host
import SpaGateway.Proofs.Command.Rendering

/-!
# The ledger of requests

A connection serves its requests one after the other.  What it has done for them is kept here as a
ledger.  An `Account` holds the effects for one request: its payloads delivered one by one, and at
last the answer.  A `Ledger` holds the accounts of the requests received so far, in their order:
first those that are settled, then the one at the front of the queue, and then those for which
nothing was done yet.  So the effects on commands are the accounts, one after the other.

The ledger knows nothing of the connection.  `Ledger.receive`, `Ledger.deliver`, `Ledger.complete`,
`Ledger.abandon` and `Ledger.fail` are the moves that are open to it.
-/

namespace SpaGateway

/-! ## Effects on requests -/

namespace Effect

/-- The ticket of the request that an effect is about. -/
def ticket? : Effect → Option Nat
  | send (.command ticket) _ _ | answer ticket _ => some ticket
  | _ => none

/-- The command payload that reached the link, with the ticket of its request. -/
def delivered? : Effect → Option (Nat × Octets)
  | send (.command ticket) (.authorized _ _ (.data payload)) none => some (ticket, payload)
  | _ => none

/-- The effects on requests among some effects. -/
def notes (effects : List Effect) : List Effect := effects.filter (·.ticket?.isSome)

/-- The effects on one request among some effects. -/
def about (ticket : Nat) (effects : List Effect) : List Effect :=
  effects.filter (·.ticket? = some ticket)

/-- The tickets that were answered, in order. -/
def answeredTickets (effects : List Effect) : List Nat :=
  (effects.filterMap answered?).map Prod.fst

variable {x : Effect} {effects effects' : List Effect} {ticket : Nat}

@[simp] lemma notes_append : notes (effects ++ effects') = notes effects ++ notes effects' :=
  List.filter_append ..

@[simp] lemma about_append :
    about ticket (effects ++ effects') = about ticket effects ++ about ticket effects' :=
  List.filter_append ..

@[simp] lemma answeredTickets_append :
    answeredTickets (effects ++ effects') =
      answeredTickets effects ++ answeredTickets effects' := by
  simp [answeredTickets]

lemma ticket?_of_delivered? {payload : Octets} (h : x.delivered? = some (ticket, payload)) :
    x.ticket? = some ticket := by
  unfold delivered? at h
  split at h
  · obtain ⟨rfl, -⟩ := Prod.mk.inj (Option.some.inj h)
    rfl
  · cases h

lemma answered?_of_delivered? {pair : Nat × Octets} (h : x.delivered? = some pair) :
    x.answered? = none := by
  cases x with
  | send => rfl
  | feed | answer => cases h

lemma filterMap_delivered?_notes : (notes effects).filterMap delivered? =
    effects.filterMap delivered? := by
  rw [notes, List.filterMap_filter]
  congr
  funext x
  split
  · rfl
  · rename_i hnone
    cases hx : x.delivered? with
    | none => rfl
    | some pair => simp [ticket?_of_delivered? hx] at hnone

lemma answeredTickets_notes : answeredTickets (notes effects) = answeredTickets effects := by
  rw [answeredTickets, notes, List.filterMap_filter, answeredTickets]
  congr
  funext x
  cases x with
  | answer => rfl
  | send | feed => exact ite_self none

lemma answeredTickets_map_answer (requests : List Request) (fault : Option CommandFault) :
    answeredTickets (requests.map fun r => .answer r.ticket fault) =
      requests.map Request.ticket := by
  simp [answeredTickets, answered?, Function.comp_def]

lemma about_notes : about ticket (notes effects) = about ticket effects := by
  rw [about, notes, List.filter_filter, about]
  congr
  funext x
  by_cases hx : x.ticket? = some ticket <;> simp [hx]

end Effect

/-! ## Taking payloads -/

/-- What a translator goes by, its counter aside. -/
def Translator.rules (t : Translator) : Translator := { t with seq := 0 }

namespace Translator

variable {t t' : Translator} {command left : TranslatedCommand} {payload : Octets}

lemma exists_seq_of_rules_eq (h : t'.rules = t.rules) : ∃ seq, t' = { t with seq } := by
  cases t
  cases t'
  obtain ⟨rfl, rfl⟩ := by simpa [rules] using h
  exact ⟨_, rfl⟩

/-- A payload that is taken is one less to take. -/
lemma remaining_of_nextPayload (h : t.nextPayload command = (some payload, left, t')) :
    left.remaining + 1 = command.remaining := by
  obtain ⟨pending, spacing⟩ := command
  cases pending with
  | single payload? =>
    simp only [nextPayload, Prod.mk.injEq] at h
    obtain ⟨rfl, rfl, -⟩ := h
    rfl
  | presses key n =>
    simp only [nextPayload] at h
    split at h
    · cases h
    · rename_i hn
      simp only [Prod.mk.injEq] at h
      obtain ⟨-, rfl, -⟩ := h
      exact toNat_pred_add_one hn

lemma rules_nextPayload (t : Translator) (command : TranslatedCommand) :
    (t.nextPayload command).2.2.rules = t.rules := by
  obtain ⟨pending, spacing⟩ := command
  cases pending with
  | single payload? => rfl
  | presses key n =>
    simp only [nextPayload]
    split <;> rfl

/-- As long as a command has payloads left, one can be taken. -/
lemma exists_nextPayload (t : Translator) (h : command.isEmpty = false) :
    ∃ payload left t', t.nextPayload command = (some payload, left, t') := by
  obtain ⟨pending, spacing⟩ := command
  cases pending with
  | single payload? =>
    cases payload? with
    | none => cases h
    | some payload => exact ⟨_, _, _, rfl⟩
  | presses key n =>
    have hn : n ≠ 0 := by
      rintro rfl
      cases h
    exact ⟨_, _, _, by rw [nextPayload]; exact if_neg hn⟩

lemma nextPayload_of_isEmpty (t : Translator) (h : command.isEmpty = true) :
    t.nextPayload command = (none, command, t) := by
  obtain ⟨pending, spacing⟩ := command
  cases pending with
  | single payload? =>
    cases payload? with
    | none => rfl
    | some payload => cases h
  | presses key n =>
    have hnone : n.toNat = 0 := by
      simpa [TranslatedCommand.isEmpty, TranslatedCommand.remaining] using h
    have hn : n = 0 := UInt32.toNat_inj.1 hnone
    rw [nextPayload]
    exact if_pos hn

end Translator

namespace TranslatedCommand

/-- `command.Takes rules payloads left` says that these payloads are the first of a command and that
the others are left.  Each is taken with the sequence number that is drawn at its time. -/
inductive Takes (rules : Translator) (command : TranslatedCommand) :
    List Octets → TranslatedCommand → Prop
  | nothing : Takes rules command [] command
  | next {payloads : List Octets} {left left' : TranslatedCommand} {payload : Octets}
      {t t' : Translator} (takes : Takes rules command payloads left) (rules_eq : t.rules = rules)
      (next_eq : t.nextPayload left = (some payload, left', t')) :
      Takes rules command (payloads ++ [payload]) left'

namespace Takes

variable {rules t t' : Translator} {command first left : TranslatedCommand} {payload : Octets}
  {payloads : List Octets}

/-- No payload is lost. -/
lemma length_add_remaining (h : command.Takes rules payloads left) :
    payloads.length + left.remaining = command.remaining := by
  induction h with
  | nothing => simp
  | next takes rules_eq next_eq ih =>
    have hone := Translator.remaining_of_nextPayload next_eq
    rw [List.length_append, List.length_singleton]
    omega

lemma cons (h : first.Takes rules payloads left) (hrules : t.rules = rules)
    (hnext : t.nextPayload command = (some payload, first, t')) :
    command.Takes rules (payload :: payloads) left := by
  induction h with
  | nothing => exact .next .nothing hrules hnext
  | next takes rules_eq next_eq ih =>
    rw [← List.cons_append]
    exact ih.next rules_eq next_eq

end Takes

end TranslatedCommand

/-- **To drain a command is to take all its payloads.** -/
theorem Translator.takes_drain (t : Translator) (command : TranslatedCommand) :
    command.Takes t.rules (t.drain command).1 (t.drain command).2.1 ∧
      (t.drain command).2.1.isEmpty = true := by
  induction hcount : command.remaining generalizing t command with
  | zero =>
    have hempty : command.isEmpty = true := by simpa [TranslatedCommand.isEmpty] using hcount
    rw [drain_eq, t.nextPayload_of_isEmpty hempty]
    exact ⟨.nothing, hempty⟩
  | succ n ih =>
    have hopen : command.isEmpty = false := by simp [TranslatedCommand.isEmpty, hcount]
    obtain ⟨payload, left, t', hnext⟩ := t.exists_nextPayload hopen
    have hleft : left.remaining = n := by
      have hone := remaining_of_nextPayload hnext
      omega
    have hrules : t'.rules = t.rules := by
      have hkept := t.rules_nextPayload command
      rwa [hnext] at hkept
    obtain ⟨htakes, hdrained⟩ := ih t' left hleft
    rw [hrules] at htakes
    rw [drain_eq, hnext]
    exact ⟨htakes.cons rfl hnext, hdrained⟩

/-! ## Accounts -/

/-- What was done for a request, and what is left of its command until it is answered: payloads
were delivered one by one, and the answer came when none was left, or when one could not be sent or
the queue was given up. -/
inductive Account (rules : Translator) (r : Request) : List Effect → Option TranslatedCommand → Prop
  | underway {begun : List Effect} {payloads : List Octets} {left : TranslatedCommand}
      (takes : r.command.Takes rules payloads left)
      (delivered : begun.map Effect.delivered? = payloads.map fun p => some (r.ticket, p))
      (isOpen : left.isEmpty = false) : Account rules r begun (some left)
  | complete {begun : List Effect} {payloads : List Octets} {left : TranslatedCommand}
      (takes : r.command.Takes rules payloads left)
      (delivered : begun.map Effect.delivered? = payloads.map fun p => some (r.ticket, p))
      (isDone : left.isEmpty = true) : Account rules r (begun ++ [.answer r.ticket none]) none
  | abandoned {begun : List Effect} {payloads : List Octets} {left : TranslatedCommand}
      {attempt : List Effect} {reason : DeliveryFault}
      (takes : r.command.Takes rules payloads left)
      (delivered : begun.map Effect.delivered? = payloads.map fun p => some (r.ticket, p))
      (isOpen : left.isEmpty = false)
      (attempt_eq : attempt = [] ∨ ∃ package fault,
        attempt = [.send (.command r.ticket) package (some fault)]) :
      Account rules r (begun ++ attempt ++ [.answer r.ticket (some (.undelivered reason))]) none

/-- The effect of a payload that reaches the link. -/
def Effect.delivery (ticket : Nat) (source destination : Option Octets) (payload : Octets) :
    Effect :=
  .send (.command ticket) (.authorized source destination (.data payload)) none

namespace Account

variable {rules : Translator} {r : Request} {begun : List Effect} {c left : TranslatedCommand}
  {t t' : Translator} {payload : Octets}

lemma fresh (h : r.command.isEmpty = false) : Account rules r [] (some r.command) :=
  .underway .nothing rfl h

lemma isEmpty_eq_false (h : Account rules r begun (some c)) : c.isEmpty = false := by
  cases h with
  | underway takes delivered isOpen => exact isOpen

/-- One more payload is delivered, and the answer follows if it was the last. -/
lemma deliver (h : Account rules r begun (some c)) (hrules : t.rules = rules)
    (hnext : t.nextPayload c = (some payload, left, t')) (source destination : Option Octets) :
    if left.isEmpty then
      Account rules r (begun ++ [.delivery r.ticket source destination payload,
        .answer r.ticket none]) none
    else
      Account rules r (begun ++ [.delivery r.ticket source destination payload]) (some left) := by
  cases h with
  | underway takes delivered isOpen =>
    rename_i payloads
    have hdelivered : (begun ++ [Effect.delivery r.ticket source destination payload]).map
        Effect.delivered? = (payloads ++ [payload]).map fun p => some (r.ticket, p) := by
      rw [List.map_append, delivered, List.map_append]
      rfl
    split
    · rename_i hdone
      rw [List.append_cons]
      exact .complete (takes.next hrules hnext) hdelivered hdone
    · rename_i hopen
      exact .underway (takes.next hrules hnext) hdelivered (by simpa using hopen)

/-- The request is given up, perhaps after a last attempt. -/
lemma abandon (h : Account rules r begun (some c)) (reason : DeliveryFault) (attempt : List Effect)
    (hattempt : attempt = [] ∨ ∃ package fault,
      attempt = [.send (.command r.ticket) package (some fault)]) :
    Account rules r
      (begun ++ (attempt ++ [.answer r.ticket (some (.undelivered reason))])) none := by
  cases h with
  | underway takes delivered isOpen =>
    rw [← List.append_assoc]
    exact .abandoned takes delivered isOpen hattempt

end Account

/-! ## Ledgers -/

/-- The ledger of a queue: the requests received, what was done for them, and the queue. -/
inductive Ledger (rules : Translator) : List Request → List Effect → List Request → Prop
  | idle (settled : List (Request × List Effect))
      (settled_spec : ∀ a ∈ settled, Account rules a.1 a.2 none) :
      Ledger rules (settled.map Prod.fst) (settled.flatMap Prod.snd) []
  | busy (settled : List (Request × List Effect))
      (settled_spec : ∀ a ∈ settled, Account rules a.1 a.2 none)
      {front : Request} {begun : List Effect} {left : TranslatedCommand} {rest : List Request}
      (front_spec : Account rules front begun (some left))
      (rest_spec : ∀ r ∈ rest, r.command.isEmpty = false) :
      Ledger rules (settled.map Prod.fst ++ front :: rest) (settled.flatMap Prod.snd ++ begun)
        ({ front with command := left } :: rest)

namespace Ledger

variable {rules : Translator} {received : List Request} {log : List Effect}
  {queue rest : List Request} {r front : Request}

/-- The request after the settled ones is at the front. -/
lemma of_settled {settled : List (Request × List Effect)}
    (hsettled : ∀ a ∈ settled, Account rules a.1 a.2 none)
    (hrest : ∀ r ∈ rest, r.command.isEmpty = false) :
    Ledger rules (settled.map Prod.fst ++ rest) (settled.flatMap Prod.snd) rest := by
  cases rest with
  | nil => simpa using idle settled hsettled
  | cons front rest =>
    rw [List.forall_mem_cons] at hrest
    simpa using busy settled hsettled (.fresh hrest.1) hrest.2

lemma empty : Ledger rules [] [] [] := idle [] (by simp)

/-- A request that waits has something left to send. -/
lemma isEmpty_eq_false (h : Ledger rules received log queue) (hr : r ∈ queue) :
    r.command.isEmpty = false := by
  cases h with
  | idle => cases hr
  | busy settled settled_spec front_spec rest_spec =>
    rcases List.mem_cons.1 hr with rfl | hr
    · exact front_spec.isEmpty_eq_false
    · exact rest_spec r hr

/-- A request joins the queue. -/
lemma receive (h : Ledger rules received log queue) (hr : r.command.isEmpty = false) :
    Ledger rules (received ++ [r]) log (queue ++ [r]) := by
  cases h with
  | idle settled settled_spec => exact of_settled settled_spec (by simpa using hr)
  | busy settled settled_spec front_spec rest_spec =>
    rw [List.append_assoc, List.cons_append, List.cons_append]
    refine busy settled settled_spec front_spec fun r' hr' => ?_
    rcases List.mem_append.1 hr' with hr' | hr'
    · exact rest_spec r' hr'
    · rwa [List.mem_singleton.1 hr']

/-- The request at the front is settled, and the next one moves up. -/
lemma settle (h : Ledger rules received log (front :: rest)) {new : List Effect}
    (hnew : ∀ r begun, r.ticket = front.ticket → Account rules r begun (some front.command) →
      Account rules r (begun ++ new) none) :
    Ledger rules received (log ++ new) rest := by
  cases h with
  | busy settled settled_spec front_spec rest_spec =>
    rename_i front begun left
    have hall : ∀ a ∈ settled ++ [(front, begun ++ new)], Account rules a.1 a.2 none := by
      intro a ha
      rcases List.mem_append.1 ha with ha | ha
      · exact settled_spec a ha
      · rw [List.mem_singleton.1 ha]
        exact hnew front begun rfl front_spec
    simpa using of_settled hall rest_spec

/-- A payload of the request at the front is delivered. -/
lemma deliver (h : Ledger rules received log (front :: rest)) {t t' : Translator}
    {payload : Octets} {left : TranslatedCommand} (hrules : t.rules = rules)
    (hnext : t.nextPayload front.command = (some payload, left, t'))
    (source destination : Option Octets) :
    if left.isEmpty then
      Ledger rules received (log ++ [.delivery front.ticket source destination payload,
        .answer front.ticket none]) rest
    else
      Ledger rules received (log ++ [.delivery front.ticket source destination payload])
        ({ front with command := left } :: rest) := by
  split
  · rename_i hdone
    refine h.settle fun r begun hticket haccount => ?_
    have hdelivered := haccount.deliver hrules hnext source destination
    rw [if_pos hdone, hticket] at hdelivered
    exact hdelivered
  · rename_i hopen
    cases h with
    | busy settled settled_spec front_spec rest_spec =>
      have hdelivered := front_spec.deliver hrules hnext source destination
      rw [if_neg hopen] at hdelivered
      rw [List.append_assoc]
      exact busy settled settled_spec hdelivered rest_spec

/-- The request at the front is given up, perhaps after a last attempt. -/
lemma abandon (h : Ledger rules received log (front :: rest)) (reason : DeliveryFault)
    (attempt : List Effect) (hattempt : attempt = [] ∨ ∃ package fault,
      attempt = [.send (.command front.ticket) package (some fault)]) :
    Ledger rules received
      (log ++ (attempt ++ [.answer front.ticket (some (.undelivered reason))])) rest := by
  refine h.settle fun r begun hticket haccount => ?_
  rw [← hticket] at hattempt ⊢
  exact haccount.abandon reason attempt hattempt

/-- The whole queue is given up. -/
lemma fail (h : Ledger rules received log queue) (reason : DeliveryFault) :
    Ledger rules received
      (log ++ queue.map fun r => .answer r.ticket (some (.undelivered reason))) [] := by
  induction queue generalizing log with
  | nil => simpa using h
  | cons front rest ih =>
    have hrest := ih (h.abandon reason [] (.inl rfl))
    simpa using hrest

end Ledger

/-! ## Reading a ledger -/

namespace Effect

variable {begun : List Effect} {payloads : List Octets} {ticket : Nat}

lemma exists_delivered? (h : begun.map delivered? = payloads.map fun p => some (ticket, p)) :
    ∀ x ∈ begun, ∃ payload, x.delivered? = some (ticket, payload) := by
  intro x hx
  have hmem : x.delivered? ∈ payloads.map fun p => some (ticket, p) := by
    rw [← h]
    exact List.mem_map_of_mem hx
  obtain ⟨payload, -, hpayload⟩ := List.mem_map.1 hmem
  exact ⟨payload, hpayload.symm⟩

lemma filterMap_delivered?_eq (h : begun.map delivered? = payloads.map fun p => some (ticket, p)) :
    begun.filterMap delivered? = payloads.map fun p => (ticket, p) := by
  have hid : begun.filterMap delivered? = (begun.map delivered?).filterMap id := by
    rw [List.filterMap_map]
    rfl
  rw [hid, h, List.filterMap_map]
  exact congrFun List.filterMap_eq_map payloads

lemma answer_notMem (h : begun.map delivered? = payloads.map fun p => some (ticket, p))
    (ticket' : Nat) (fault : Option CommandFault) : .answer ticket' fault ∉ begun := by
  intro hmem
  obtain ⟨payload, hpayload⟩ := exists_delivered? h _ hmem
  cases hpayload

end Effect

namespace Account

variable {rules : Translator} {r : Request} {noted : List Effect} {left? : Option TranslatedCommand}

/-- What is done for a request bears its ticket. -/
lemma ticket?_of_mem (h : Account rules r noted left?) :
    ∀ x ∈ noted, x.ticket? = some r.ticket := by
  intro x hx
  have hbegun {begun : List Effect} {payloads : List Octets}
      (hdelivered : begun.map Effect.delivered? = payloads.map fun p => some (r.ticket, p))
      (hx : x ∈ begun) : x.ticket? = some r.ticket := by
    obtain ⟨payload, hpayload⟩ := Effect.exists_delivered? hdelivered x hx
    exact Effect.ticket?_of_delivered? hpayload
  cases h with
  | underway takes delivered => exact hbegun delivered hx
  | complete takes delivered =>
    rcases List.mem_append.1 hx with hx | hx
    · exact hbegun delivered hx
    · rw [List.mem_singleton.1 hx]
      rfl
  | abandoned takes delivered isOpen attempt_eq =>
    rcases List.mem_append.1 hx with hx | hx
    · rcases List.mem_append.1 hx with hx | hx
      · exact hbegun delivered hx
      · rcases attempt_eq with rfl | ⟨package, fault, rfl⟩
        · cases hx
        · rw [List.mem_singleton.1 hx]
          rfl
    · rw [List.mem_singleton.1 hx]
      rfl

/-- What was delivered for a request is the first part of its payloads, and all of them exactly if
it was told that they were sent. -/
lemma exists_takes (h : Account rules r noted left?) :
    ∃ payloads left, r.command.Takes rules payloads left ∧
      noted.filterMap Effect.delivered? = (payloads.map fun p => (r.ticket, p)) ∧
      (.answer r.ticket none ∈ noted ↔ left.isEmpty = true) ∧ ∀ left' ∈ left?, left' = left := by
  cases h with
  | underway takes delivered isOpen =>
    refine ⟨_, _, takes, Effect.filterMap_delivered?_eq delivered, ?_, by simp⟩
    simp [isOpen, Effect.answer_notMem delivered]
  | complete takes delivered isDone =>
    refine ⟨_, _, takes, ?_, by simp [isDone], by simp⟩
    rw [List.filterMap_append, Effect.filterMap_delivered?_eq delivered]
    exact List.append_nil _
  | abandoned takes delivered isOpen attempt_eq =>
    refine ⟨_, _, takes, ?_, ?_, by simp⟩
    · rw [List.filterMap_append, List.filterMap_append, Effect.filterMap_delivered?_eq delivered]
      rcases attempt_eq with rfl | ⟨package, fault, rfl⟩ <;>
        simp [Effect.delivered?]
    · rcases attempt_eq with rfl | ⟨package, fault, rfl⟩ <;>
        simp [isOpen, Effect.answer_notMem delivered]

/-- An account is closed by its one answer, and that tells of a failed delivery if of anything. -/
lemma exists_ending (h : Account rules r noted left?) :
    ∃ sends ending, noted = sends ++ ending ∧ (∀ x ∈ sends, x.answered? = none) ∧
      (left?.isSome ∧ ending = [] ∨ left? = none ∧ ∃ fault?, ending = [.answer r.ticket fault?] ∧
        ∀ fault ∈ fault?, ∃ reason, fault = .undelivered reason) := by
  have hbegun {begun : List Effect} {payloads : List Octets}
      (hdelivered : begun.map Effect.delivered? = payloads.map fun p => some (r.ticket, p)) :
      ∀ x ∈ begun, x.answered? = none := by
    intro x hx
    obtain ⟨payload, hpayload⟩ := Effect.exists_delivered? hdelivered x hx
    exact Effect.answered?_of_delivered? hpayload
  cases h with
  | underway takes delivered =>
    exact ⟨_, [], (List.append_nil _).symm, hbegun delivered, .inl ⟨rfl, rfl⟩⟩
  | complete takes delivered =>
    exact ⟨_, _, rfl, hbegun delivered, .inr ⟨rfl, none, rfl, by simp⟩⟩
  | abandoned takes delivered isOpen attempt_eq =>
    rename_i reason
    refine ⟨_, _, rfl, ?_, .inr ⟨rfl, some _, rfl, by simp⟩⟩
    intro x hx
    rcases List.mem_append.1 hx with hx | hx
    · exact hbegun delivered x hx
    · rcases attempt_eq with rfl | ⟨package, fault, rfl⟩
      · cases hx
      · rw [List.mem_singleton.1 hx]
        rfl

lemma eq_undelivered_of_answer (h : Account rules r noted left?) {ticket : Nat}
    {fault : CommandFault} (hmem : .answer ticket (some fault) ∈ noted) :
    ∃ reason, fault = .undelivered reason := by
  obtain ⟨sends, ending, rfl, hsends, ⟨-, rfl⟩ | ⟨-, fault?, rfl, hfault⟩⟩ := h.exists_ending
  · rw [List.append_nil] at hmem
    cases hsends _ hmem
  · rcases List.mem_append.1 hmem with hmem | hmem
    · cases hsends _ hmem
    · cases List.mem_singleton.1 hmem
      exact hfault fault rfl

/-- Nothing is done for a request after its answer. -/
lemma eq_nil_of_answer (h : Account rules r noted left?) {earlier later : List Effect}
    {ticket : Nat} {fault : Option CommandFault}
    (hnoted : noted = earlier ++ .answer ticket fault :: later) : later = [] := by
  obtain ⟨sends, ending, rfl, hsends, hending⟩ := h.exists_ending
  have hlength : ending.length ≤ 1 := by
    rcases hending with ⟨-, rfl⟩ | ⟨-, fault?, rfl, -⟩ <;> simp
  -- the answer stands in the ending, which is it alone
  rcases List.append_eq_append_iff.1 hnoted with ⟨between, rfl, hending⟩ | ⟨between, rfl, hlater⟩
  · rw [hending, List.length_append, List.length_cons] at hlength
    exact List.eq_nil_of_length_eq_zero (by omega)
  · cases between with
    | nil =>
      rw [List.nil_append] at hlater
      rw [← hlater, List.length_cons] at hlength
      exact List.eq_nil_of_length_eq_zero (by omega)
    | cons x between =>
      obtain ⟨rfl, -⟩ := List.cons.inj hlater
      cases hsends _ (List.mem_append_right _ List.mem_cons_self)

lemma answeredTickets_eq (h : Account rules r noted left?) :
    Effect.answeredTickets noted = if left?.isSome then [] else [r.ticket] := by
  obtain ⟨sends, ending, rfl, hsends, hending⟩ := h.exists_ending
  have hnone : Effect.answeredTickets sends = [] := by
    rw [Effect.answeredTickets, List.filterMap_eq_nil_iff.2 hsends]
    rfl
  rw [Effect.answeredTickets_append, hnone, List.nil_append]
  rcases hending with ⟨hsome, rfl⟩ | ⟨rfl, fault?, rfl, -⟩
  · rw [if_pos hsome]
    rfl
  · rfl

end Account

namespace Ledger

variable {rules : Translator} {received queue : List Request} {log : List Effect}

/-- The accounts of a ledger, one for each request received.  Those that are open belong to the
queue, and only that at the front is begun. -/
lemma exists_accounts (h : Ledger rules received log queue) :
    ∃ accounts : List (Request × List Effect), accounts.map Prod.fst = received ∧
      accounts.flatMap Prod.snd = log ∧ ∀ a ∈ accounts, ∃ left?, Account rules a.1 a.2 left? ∧
        ∀ left ∈ left?, a.2 ≠ [] → queue.head? = some { a.1 with command := left } := by
  cases h with
  | idle settled settled_spec =>
    exact ⟨settled, rfl, rfl, fun a ha => ⟨none, settled_spec a ha, by simp⟩⟩
  | busy settled settled_spec front_spec rest_spec =>
    rename_i front begun left rest
    refine ⟨settled ++ (front, begun) :: rest.map fun r => (r, []), ?_, ?_, ?_⟩
    · simp [Function.comp_def]
    · simp [List.flatMap_map]
    · intro a ha
      rcases List.mem_append.1 ha with ha | ha
      · exact ⟨none, settled_spec a ha, by simp⟩
      · rcases List.mem_cons.1 ha with rfl | ha
        · refine ⟨some left, front_spec, ?_⟩
          rintro _ ⟨⟩ -
          rfl
        · obtain ⟨r, hr, rfl⟩ := List.mem_map.1 ha
          exact ⟨_, .fresh (rest_spec r hr), by simp⟩

/-- The requests received are those answered and those in the queue. -/
lemma answeredTickets_append_queue (h : Ledger rules received log queue) :
    Effect.answeredTickets log ++ queue.map Request.ticket = received.map Request.ticket := by
  have hsettled {settled : List (Request × List Effect)}
      (hspec : ∀ a ∈ settled, Account rules a.1 a.2 none) :
      Effect.answeredTickets (settled.flatMap Prod.snd) =
        (settled.map Prod.fst).map Request.ticket := by
    induction settled with
    | nil => rfl
    | cons a settled ih =>
      rw [List.forall_mem_cons] at hspec
      rw [List.flatMap_cons, Effect.answeredTickets_append, hspec.1.answeredTickets_eq, ih hspec.2]
      rfl
  cases h with
  | idle settled settled_spec => rw [hsettled settled_spec, List.map_nil, List.append_nil]
  | busy settled settled_spec front_spec rest_spec =>
    rw [Effect.answeredTickets_append, hsettled settled_spec, front_spec.answeredTickets_eq]
    simp

/-- With distinct tickets, the account of a request is what the log holds about it. -/
lemma about_flatMap {accounts : List (Request × List Effect)}
    (hnodup : (accounts.map fun a => a.1.ticket).Nodup)
    (hticket : ∀ a ∈ accounts, ∀ x ∈ a.2, x.ticket? = some a.1.ticket) :
    ∀ a ∈ accounts, Effect.about a.1.ticket (accounts.flatMap Prod.snd) = a.2 := by
  induction accounts with
  | nil => simp
  | cons first accounts ih =>
    rw [List.map_cons, List.nodup_cons] at hnodup
    rw [List.forall_mem_cons] at hticket
    have hother (ticket : Nat) (effects : List Effect)
        (hnot : ∀ x ∈ effects, x.ticket? ≠ some ticket) :
        Effect.about ticket effects = [] := List.filter_eq_nil_iff.2 (by simpa using hnot)
    intro a ha
    rw [List.flatMap_cons, Effect.about_append]
    rcases List.mem_cons.1 ha with rfl | ha
    · have hself : Effect.about a.1.ticket a.2 = a.2 :=
        List.filter_eq_self.2 (by simpa using hticket.1)
      rw [hself, hother, List.append_nil]
      intro x hx heq
      obtain ⟨b, hb, hxb⟩ := List.mem_flatMap.1 hx
      have hsame : b.1.ticket = a.1.ticket :=
        Option.some.inj ((hticket.2 b hb x hxb).symm.trans heq)
      exact hnodup.1 (List.mem_map.2 ⟨b, hb, hsame⟩)
    · rw [hother, List.nil_append, ih hnodup.2 hticket.2 a ha]
      intro x hx heq
      have hsame : first.1.ticket = a.1.ticket :=
        Option.some.inj ((hticket.1 x hx).symm.trans heq)
      exact hnodup.1 (List.mem_map.2 ⟨a, ha, hsame.symm⟩)

/-- **What a ledger says of a request**: its account is what was done about it. -/
lemma account_of_mem (h : Ledger rules received log queue)
    (hnodup : (received.map Request.ticket).Nodup) {r : Request} (hr : r ∈ received) :
    ∃ left?, Account rules r (Effect.about r.ticket log) left? ∧
      ∀ left ∈ left?, Effect.about r.ticket log ≠ [] →
        queue.head? = some { r with command := left } := by
  obtain ⟨accounts, rfl, rfl, hspec⟩ := h.exists_accounts
  obtain ⟨a, ha, rfl⟩ := List.mem_map.1 hr
  rw [List.map_map] at hnodup
  have habout := about_flatMap hnodup (fun a ha => by
    obtain ⟨left?, haccount, -⟩ := hspec a ha
    exact haccount.ticket?_of_mem) a ha
  rw [habout]
  exact hspec a ha

/-- **The deliveries are those of the requests, one after the other.** -/
lemma filterMap_delivered?_eq (h : Ledger rules received log queue)
    (hnodup : (received.map Request.ticket).Nodup) :
    log.filterMap Effect.delivered? = received.flatMap fun r =>
      (Effect.about r.ticket log).filterMap Effect.delivered? := by
  obtain ⟨accounts, rfl, rfl, hspec⟩ := h.exists_accounts
  rw [List.map_map] at hnodup
  have habout := about_flatMap hnodup fun a ha => by
    obtain ⟨left?, haccount, -⟩ := hspec a ha
    exact haccount.ticket?_of_mem
  rw [List.filterMap_flatMap, List.flatMap_map]
  exact List.flatMap_congr fun a ha => by rw [habout a ha]

end Ledger

end SpaGateway
