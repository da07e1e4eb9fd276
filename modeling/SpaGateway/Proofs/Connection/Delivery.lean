import Mathlib.Tactic
import SpaGateway.Proofs.Connection.CommandView
import SpaGateway.Proofs.Connection.Run

/-!
# Delivery of commands

Around the connection, requests are made, wait, and are refused once it has ended.  `Books` joins
the ledger of the connection with these: every ticket is that of a request received, or was answered
without one, or waits in the mailbox.  It is kept by whatever happens (`Books.happen`), so it holds
after every run.

From the books, `Host.delivered_in_order_and_answered_once` reads off what those who submit commands
rely on: payloads are sent in the order of the requests, an answer tells what was sent, and each
command is answered once.
-/

namespace SpaGateway

/-- The payloads that were delivered for one request, in order. -/
def Effect.payloadsFor (ticket : Nat) (effects : List Effect) : List Octets :=
  ((Effect.about ticket effects).filterMap delivered?).map Prod.snd

namespace Host

/-! ## Requests -/

/-- The command that a happening submits. -/
def Happening.submitted? (happening : Happening) : Option Command :=
  match happening.occasion with
  | .submit command => some command
  | _ => none

/-- The request that the connection receives in a step. -/
def Entry.received? (e : Entry) : Option Request := e.input?.bind Input.request?

lemma Entry.received?_eq_some_iff {e : Entry} {r : Request} : e.received? = some r ↔
    e.before.isRunning = true ∧ ∃ place, e.happening.occasion = .take place ∧
      e.before.mailbox[place]? = some r := by
  unfold received? input?
  by_cases hrunning : e.before.isRunning = true
  · rw [if_pos hrunning]
    cases e.happening.occasion with
    | take place =>
      cases hrequest : e.before.mailbox[place]? <;> simp [hrunning, hrequest, Input.request?]
    | submit | arrive | timer | stop => simp [Input.request?]
  · simp [hrunning]

/-- A request is what an accepted command with something to send was translated to. -/
def IsRequestOf (rules : Translator) (submitted : List Command) (r : Request) : Prop :=
  ∃ (command : Command) (t t' : Translator), submitted[r.ticket]? = some command ∧
    t.rules = rules ∧ t.translate command = .ok (r.command, t') ∧ r.command.isEmpty = false

/-- Refuses the requests that wait. -/
def refuseWaiting (h : Host) : Host := h.mailbox.foldl refuse { h with mailbox := [] }

lemma log_refuseWaiting (h : Host) :
    h.refuseWaiting.log = h.log ++ h.mailbox.map fun r =>
      .answer r.ticket (some (.undelivered .stopped)) := by
  rw [refuseWaiting, foldl_refuse]

section

variable {rules : Translator} {submitted : List Command} {r : Request}

lemma IsRequestOf.append (h : IsRequestOf rules submitted r) (more : List Command) :
    IsRequestOf rules (submitted ++ more) r := by
  obtain ⟨command, t, t', hcommand, hrules, htranslate, hopen⟩ := h
  refine ⟨command, t, t', ?_, hrules, htranslate, hopen⟩
  rw [List.getElem?_append_left (List.getElem?_eq_some_iff.1 hcommand).1, hcommand]

lemma IsRequestOf.isEmpty_eq_false (h : IsRequestOf rules submitted r) :
    r.command.isEmpty = false := by
  obtain ⟨command, t, t', -, -, -, hopen⟩ := h
  exact hopen

end

lemma rules_of_translate {t t' : Translator} {command : Command} {translated : TranslatedCommand}
    (h : t.translate command = .ok (translated, t')) : t'.rules = t.rules := by
  obtain ⟨-, hrender⟩ := t.translate_eq_ok_iff.1 h
  cases command <;> (obtain ⟨-, rfl⟩ := Prod.mk.inj hrender; rfl)

/-! ## The books -/

/-- The log records what the ledger notes, and answers with other tickets. -/
structure LogMatches (log notes : List Effect) (others : List Nat) : Prop where
  delivered_eq : log.filterMap Effect.delivered? = notes.filterMap Effect.delivered?
  about_eq : ∀ ticket ∉ others, Effect.about ticket log = Effect.about ticket notes
  answered_perm : (Effect.answeredTickets log).Perm (Effect.answeredTickets notes ++ others)

namespace LogMatches

variable {log notes : List Effect} {others : List Nat}

/-- What is done in a turn is noted. -/
lemma append (h : LogMatches log notes others) (effects : List Effect) :
    LogMatches (log ++ effects) (notes ++ Effect.notes effects) others where
  delivered_eq := by
    rw [List.filterMap_append, List.filterMap_append, h.delivered_eq,
      Effect.filterMap_delivered?_notes]
  about_eq ticket hticket := by
    rw [Effect.about_append, Effect.about_append, h.about_eq ticket hticket, Effect.about_notes]
  answered_perm := by
    rw [Effect.answeredTickets_append, Effect.answeredTickets_append, Effect.answeredTickets_notes]
    refine (h.answered_perm.append_right _).trans ?_
    rw [List.append_assoc, List.append_assoc]
    exact List.perm_append_comm.append_left _

/-- An answer that the connection does not give. -/
lemma answer (h : LogMatches log notes others) (ticket : Nat) (fault : Option CommandFault) :
    LogMatches (log ++ [.answer ticket fault]) notes (others ++ [ticket]) where
  delivered_eq := by
    rw [List.filterMap_append, h.delivered_eq]
    exact List.append_nil _
  about_eq other hother := by
    rw [List.mem_append, not_or, List.mem_singleton] at hother
    have hnone : Effect.about other [.answer ticket fault] = [] := by
      simp [Effect.about, Effect.ticket?, Ne.symm hother.2]
    rw [Effect.about_append, hnone, List.append_nil, h.about_eq other hother.1]
  answered_perm := by
    rw [Effect.answeredTickets_append, ← List.append_assoc]
    exact h.answered_perm.append_right _

end LogMatches

/-- The connection of a host and what it noted agree with the ledger. -/
structure Keeps (rules : Translator) (received : List Request) (notes : List Effect)
    (others : List Nat) (h : Host) : Prop where
  rules_eq : h.connection.translator.rules = rules
  ledger : Ledger rules received notes h.connection.queue
  isIdle : h.connection.IsIdle
  queue_eq_nil : h.isRunning = false → h.connection.queue = []
  log : LogMatches h.log notes others

section

variable {rules : Translator} {received : List Request} {notes : List Effect} {others : List Nat}
  {h : Host}

/-- A turn goes on with the books, also if the connection breaks off then. -/
lemma keeps_adopt {t : Turn} (hlog : LogMatches h.log notes others)
    (hserves : Turn.Serves rules received notes t) (hidle : t.connection.IsIdle)
    (hrunning : h.isRunning = true) : ∃ notes', Keeps rules received notes' others (h.adopt t) := by
  rw [adopt_eq]
  split
  · have hended := (hlog.append t.effects).append (t.connection.queue.map fun r =>
      .answer r.ticket (some (.undelivered .stopped)))
    rw [Effect.notes_map_answer] at hended
    exact ⟨_, hserves.rules_eq, hserves.ledger.fail .stopped, fun _ => rfl, fun _ => rfl, hended⟩
  · refine ⟨_, hserves.rules_eq, hserves.ledger, hidle, fun hstopped => ?_, hlog.append t.effects⟩
    cases hstopped.symm.trans hrunning

lemma Keeps.reactAt (hkeeps : Keeps rules received notes others h) (m : Moment) (input : Input)
    (hrequest : ∀ r ∈ input.request?, h.isRunning = true ∧ r.command.isEmpty = false) :
    ∃ notes', Keeps rules (received ++ input.request?.toList) notes' others
      (h.reactAt m input) := by
  unfold Host.reactAt
  split
  · rename_i hrunning
    have hledger := hkeeps.ledger
    rw [← hkeeps.rules_eq] at hledger
    obtain ⟨hserves, hidle⟩ := Connection.serves_react hledger hkeeps.isIdle m input
      fun r hr => (hrequest r hr).2
    rw [hkeeps.rules_eq] at hserves
    exact keeps_adopt hkeeps.log hserves hidle hrunning
  · rename_i hstopped
    have hnone : input.request? = none := by
      rw [Option.eq_none_iff_forall_ne_some]
      exact fun r hr => hstopped (hrequest r hr).1
    rw [hnone]
    exact ⟨notes, by simpa using hkeeps⟩

end

lemma tickets_mailbox_adopt (h : Host) (t : Turn) :
    (h.adopt t).tickets = h.tickets ∧ (h.adopt t).mailbox = h.mailbox := by
  rw [adopt_eq]
  split <;> exact ⟨rfl, rfl⟩

lemma tickets_mailbox_reactAt (h : Host) (m : Moment) (input : Input) :
    (h.reactAt m input).tickets = h.tickets ∧ (h.reactAt m input).mailbox = h.mailbox := by
  unfold Host.reactAt
  split
  · exact h.tickets_mailbox_adopt _
  · exact ⟨rfl, rfl⟩

/-- The books of a host: every ticket is that of a request received, or was answered without one, or
waits in the mailbox. -/
structure Books (rules : Translator) (submitted : List Command) (received : List Request)
    (notes : List Effect) (others : List Nat) (h : Host) : Prop
    extends Keeps rules received notes others h where
  tickets_eq : h.tickets = submitted.length
  tickets_perm : (received.map Request.ticket ++ others ++ h.mailbox.map Request.ticket).Perm
    (List.range submitted.length)
  isRequestOf : ∀ r ∈ received ++ h.mailbox, IsRequestOf rules submitted r

namespace Books

variable {rules : Translator} {submitted : List Command} {received : List Request}
  {notes : List Effect} {others : List Nat} {h : Host}

lemma nodup_tickets (hbooks : Books rules submitted received notes others h) :
    (received.map Request.ticket).Nodup := by
  have hall := hbooks.tickets_perm.nodup_iff.2 List.nodup_range
  exact (List.nodup_append.1 (List.nodup_append.1 hall).1).1

lemma ticket_notMem_others (hbooks : Books rules submitted received notes others h) {r : Request}
    (hr : r ∈ received) : r.ticket ∉ others := by
  have hall := hbooks.tickets_perm.nodup_iff.2 List.nodup_range
  have hdisjoint := (List.nodup_append.1 (List.nodup_append.1 hall).1).2.2
  exact fun hmem => hdisjoint _ (List.mem_map_of_mem hr) _ hmem rfl

/-- One more ticket is answered without a request. -/
lemma perm_append_other (received others waiting : List Nat) (ticket : Nat) :
    (received ++ (others ++ [ticket]) ++ waiting).Perm
      (received ++ others ++ waiting ++ [ticket]) := by
  simp only [List.append_assoc]
  exact (List.perm_append_comm.append_left _).append_left _

/-- A command that is submitted is answered at once, or its request waits. -/
lemma submit (hbooks : Books rules submitted received notes others h) (command : Command) :
    ∃ others', Books rules (submitted ++ [command]) received notes others' (h.submit command) := by
  have htickets : h.tickets + 1 = (submitted ++ [command]).length := by
    rw [hbooks.tickets_eq, List.length_append, List.length_singleton]
  have hrange : List.range (submitted ++ [command]).length =
      List.range submitted.length ++ [h.tickets] := by
    rw [← htickets, List.range_succ, hbooks.tickets_eq]
  have hmore : ∀ r ∈ received ++ h.mailbox, IsRequestOf rules (submitted ++ [command]) r :=
    fun r hr => (hbooks.isRequestOf r hr).append _
  have hanswered : (received.map Request.ticket ++ (others ++ [h.tickets]) ++
      h.mailbox.map Request.ticket).Perm (List.range (submitted ++ [command]).length) := by
    rw [hrange]
    exact (perm_append_other ..).trans (hbooks.tickets_perm.append_right _)
  have hkeeps := hbooks.toKeeps
  unfold Host.submit
  dsimp only
  split
  · exact ⟨_, ⟨hkeeps.rules_eq, hkeeps.ledger, hkeeps.isIdle, hkeeps.queue_eq_nil,
      hkeeps.log.answer h.tickets _⟩, htickets, hanswered, hmore⟩
  · rename_i translated translator htranslate
    have hrules : translator.rules = rules := (rules_of_translate htranslate).trans hkeeps.rules_eq
    split
    · exact ⟨_, ⟨hrules, hkeeps.ledger, hkeeps.isIdle, hkeeps.queue_eq_nil,
        hkeeps.log.answer h.tickets _⟩, htickets, hanswered, hmore⟩
    · rename_i hopen
      refine ⟨others, ⟨hrules, hkeeps.ledger, hkeeps.isIdle, hkeeps.queue_eq_nil, hkeeps.log⟩,
        htickets, ?_, ?_⟩
      · rw [hrange, List.map_append, ← List.append_assoc]
        exact hbooks.tickets_perm.append_right _
      · intro r hr
        rw [← List.append_assoc] at hr
        rcases List.mem_append.1 hr with hr | hr
        · exact hmore r hr
        · rw [List.mem_singleton.1 hr]
          refine ⟨command, _, _, ?_, hkeeps.rules_eq, htranslate, by simpa using hopen⟩
          rw [hbooks.tickets_eq, List.getElem?_concat_length]

/-- The connection reacts to something that is no request. -/
lemma reactAt (hbooks : Books rules submitted received notes others h) (m : Moment) {input : Input}
    (hinput : input.request? = none) :
    ∃ notes', Books rules submitted received notes' others (h.reactAt m input) := by
  obtain ⟨notes', hkeeps⟩ := hbooks.toKeeps.reactAt m input (by simp [hinput])
  rw [hinput, Option.toList_none, List.append_nil] at hkeeps
  obtain ⟨htickets, hmailbox⟩ := h.tickets_mailbox_reactAt m input
  refine ⟨notes', hkeeps, ?_, ?_, ?_⟩
  · rw [htickets, hbooks.tickets_eq]
  · rw [hmailbox]
    exact hbooks.tickets_perm
  · rw [hmailbox]
    exact hbooks.isRequestOf

/-- A request that waits is received, or refused if the connection has ended. -/
lemma take (hbooks : Books rules submitted received notes others h) {place : Nat} {r : Request}
    (hr : h.mailbox[place]? = some r) (m : Moment) :
    ∃ notes' others', Books rules submitted (received ++ if h.isRunning then [r] else [])
      notes' others' ({ h with mailbox := h.mailbox.eraseIdx place }.handleRequestAt m r) := by
  obtain ⟨hplace, rfl⟩ := List.getElem?_eq_some_iff.1 hr
  set r := h.mailbox[place]
  set rest := h.mailbox.eraseIdx place
  have hperm : (r :: rest).Perm h.mailbox := List.getElem_cons_eraseIdx_perm hplace
  have htickets : (received.map Request.ticket ++ others ++ (r :: rest).map Request.ticket).Perm
      (List.range submitted.length) :=
    ((hperm.map _).append_left _).trans hbooks.tickets_perm
  have hrequest (x : Request) (hx : x ∈ received ∨ x ∈ r :: rest) :
      IsRequestOf rules submitted x := by
    rw [hperm.mem_iff] at hx
    exact hbooks.isRequestOf x (List.mem_append.2 hx)
  have hkeeps : Keeps rules received notes others { h with mailbox := rest } :=
    ⟨hbooks.rules_eq, hbooks.ledger, hbooks.isIdle, hbooks.queue_eq_nil, hbooks.log⟩
  unfold handleRequestAt
  dsimp only
  by_cases hrunning : h.isRunning = true
  · rw [if_pos hrunning, if_pos hrunning]
    have hopen := (hrequest r (.inr List.mem_cons_self)).isEmpty_eq_false
    obtain ⟨notes', hkeeps'⟩ := hkeeps.reactAt m (.request r) (by
      rintro x ⟨⟩
      exact ⟨hrunning, hopen⟩)
    obtain ⟨htickets', hmailbox⟩ :=
      tickets_mailbox_reactAt { h with mailbox := rest } m (.request r)
    refine ⟨notes', others, hkeeps', htickets'.trans hbooks.tickets_eq, ?_, fun x hx => ?_⟩
    · rw [hmailbox]
      refine List.Perm.trans ?_ htickets
      simp only [List.map_append, List.map_cons, List.map_nil, List.append_assoc,
        List.singleton_append]
      exact List.perm_middle.symm.append_left _
    · rw [hmailbox] at hx
      have hx : x ∈ received ∨ x = r ∨ x ∈ rest := by simpa using hx
      exact hrequest x (hx.imp_right List.mem_cons.2)
  · rw [if_neg hrunning, if_neg hrunning, List.append_nil]
    refine ⟨notes, others ++ [r.ticket], ⟨hbooks.rules_eq, hbooks.ledger, hbooks.isIdle,
      hbooks.queue_eq_nil, hbooks.log.answer r.ticket _⟩, hbooks.tickets_eq, ?_, fun x hx => ?_⟩
    · simpa [refuse, Host.answer] using htickets
    · have hx : x ∈ received ∨ x ∈ rest := List.mem_append.1 hx
      exact hrequest x (hx.imp_right (List.mem_cons_of_mem r))

/-- The end of a connection leaves no request in the queue. -/
lemma queue_reactAt_close (hbooks : Books rules submitted received notes others h) (m : Moment) :
    (h.reactAt m .close).connection.queue = [] := by
  unfold Host.reactAt
  split
  · rw [adopt_eq]
    split
    · rfl
    · simp [record, Connection.react, Connection.close]
  · rename_i hstopped
    exact hbooks.queue_eq_nil (by simpa using hstopped)

/-- **Whatever happens, the books go on.** -/
theorem happen (hbooks : Books rules submitted received notes others h) (happening : Happening) :
    ∃ notes' others', Books rules (submitted ++ happening.submitted?.toList)
      (received ++ (Entry.mk h happening).received?.toList) notes' others'
      (h.happen happening) := by
  obtain ⟨occasion, m⟩ := happening
  -- where nothing is submitted and nothing received, the reaction alone counts
  have hreact (input : Input) (hinput : input.request? = none)
      (hreceived : (Entry.mk h ⟨occasion, m⟩).received? = none)
      (hsubmitted : Happening.submitted? ⟨occasion, m⟩ = none) :
      ∃ notes', Books rules (submitted ++ (Happening.submitted? ⟨occasion, m⟩).toList)
        (received ++ (Entry.mk h ⟨occasion, m⟩).received?.toList) notes' others
        (h.reactAt m input) := by
    rw [hreceived, hsubmitted]
    simpa using hbooks.reactAt m hinput
  cases occasion with
  | submit command =>
    have hreceived : (Entry.mk h ⟨.submit command, m⟩).received? = none := by
      simp [Entry.received?, Entry.input?]
    obtain ⟨others', hbooks'⟩ := hbooks.submit command
    rw [hreceived, Option.toList_none, List.append_nil]
    exact ⟨notes, others', hbooks'⟩
  | take place =>
    have hreceived : (Entry.mk h ⟨.take place, m⟩).received? =
        if h.isRunning then h.mailbox[place]? else none := by
      cases hrequest : h.mailbox[place]? <;> by_cases hrunning : h.isRunning = true <;>
        simp [Entry.received?, Entry.input?, hrequest, hrunning, Input.request?]
    rw [hreceived]
    simp only [Host.happen, Happening.submitted?, Option.toList_none, List.append_nil]
    cases hrequest : h.mailbox[place]? with
    | none => exact ⟨notes, others, by simpa using hbooks⟩
    | some r =>
      obtain ⟨notes', others', hbooks'⟩ := hbooks.take hrequest m
      refine ⟨notes', others', ?_⟩
      by_cases hrunning : h.isRunning = true <;> simpa [hrunning] using hbooks'
  | arrive package =>
    obtain ⟨notes', hbooks'⟩ := hreact (.package package) rfl
      (by simp [Entry.received?, Entry.input?, Input.request?]) rfl
    exact ⟨notes', others, hbooks'⟩
  | timer =>
    obtain ⟨notes', hbooks'⟩ := hreact .timer rfl
      (by simp [Entry.received?, Entry.input?, Input.request?]) rfl
    exact ⟨notes', others, hbooks'⟩
  | stop =>
    obtain ⟨notes', hbooks'⟩ := hreact .close rfl
      (by simp [Entry.received?, Entry.input?, Input.request?]) rfl
    exact ⟨notes', others, ⟨hbooks'.rules_eq, hbooks'.ledger, hbooks'.isIdle,
      fun _ => hbooks.queue_reactAt_close m, hbooks'.log⟩, hbooks'.tickets_eq,
      hbooks'.tickets_perm, hbooks'.isRequestOf⟩

/-- The books are kept in every run. -/
lemma run (hbooks : Books rules [] [] notes others h) (happenings : List Happening) :
    ∃ notes' others', Books rules (happenings.filterMap Happening.submitted?)
      ((h.history happenings).filterMap Entry.received?) notes' others' (h.run happenings) := by
  have hsingle {α β : Type} (f : α → Option β) (a : α) : [a].filterMap f = (f a).toList := by
    cases hf : f a <;> simp [hf]
  induction happenings using List.reverseRecOn with
  | nil => exact ⟨notes, others, hbooks⟩
  | append_singleton happenings happening ih =>
    obtain ⟨notes', others', hbooks'⟩ := ih
    rw [history_concat, run_append, List.filterMap_append, List.filterMap_append, hsingle, hsingle]
    exact hbooks'.happen happening

end Books

/-- A run starts with empty books. -/
lemma exists_books_startAt (config : GatewayConfig) (size : UInt16) (key : Octets) (m : Moment) :
    ∃ h notes, startAt { config with memorySize := some size } key m = .ok h ∧
      Books { settings := config.commands, memorySize := size.toNat } [] [] notes [] h := by
  set c := created { config with memorySize := some size } size key m.now with hc
  set h : Host := { connection := c, keys := fun _ => key }
  have hstart : Turn.commandView (c.start m) = Turn.commandView { connection := c } := by
    refine Turn.commandView_applySession _ m ?_
    unfold Session.start
    split <;> simp [SessionOutput.isExpiry]
  have hserves : Turn.Serves { settings := config.commands, memorySize := size.toNat } [] []
      (c.start m) := (Connection.serves_begin Ledger.empty).of_commandView hstart
  have hidle : (c.start m).connection.IsIdle := fun _ => congrArg CommandView.queue hstart
  have hlog : LogMatches h.log [] [] := ⟨rfl, fun _ _ => rfl, .refl _⟩
  obtain ⟨notes, hkeeps⟩ := keeps_adopt hlog hserves hidle rfl
  obtain ⟨htickets, hmailbox⟩ := h.tickets_mailbox_adopt (c.start m)
  refine ⟨h.adopt (c.start m), notes, startAt_eq rfl key m, hkeeps, htickets, ?_, ?_⟩
  · rw [hmailbox]
    exact .refl _
  · rw [hmailbox]
    simp [h]

/-! ## What is owed to a request -/

/-- What has been done for a request, and what is left of its command. -/
structure IsServed (rules : Translator) (h : Host) (r : Request) (left : TranslatedCommand) :
    Prop where
  /-- The payloads delivered are the first ones of the command. -/
  takes : r.command.Takes rules (Effect.payloadsFor r.ticket h.log) left
  /-- It is told that they were sent exactly if none is left. -/
  succeeds_iff : .answer r.ticket none ∈ h.log ↔ left.isEmpty = true
  /-- Any other answer tells that they could not be delivered. -/
  undelivered_of_answer : ∀ fault, .answer r.ticket (some fault) ∈ h.log →
    ∃ reason, fault = .undelivered reason
  /-- After an answer nothing is sent for the request, and no other answer is given. -/
  nothing_after_answer : ∀ earlier fault? later,
    h.log = earlier ++ .answer r.ticket fault? :: later → ∀ x ∈ later, x.ticket? ≠ some r.ticket
  /-- If it is sent in part, and there is no answer yet, then it is at the front of the queue. -/
  head_queue : Effect.payloadsFor r.ticket h.log ≠ [] →
    (∀ fault?, .answer r.ticket fault? ∉ h.log) →
    h.connection.queue.head? = some { r with command := left }

namespace Books

variable {rules : Translator} {submitted : List Command} {received : List Request}
  {notes : List Effect} {others : List Nat} {h : Host}

/-- What the log holds about a request received is its account. -/
lemma account_of_mem (hbooks : Books rules submitted received notes others h) {r : Request}
    (hr : r ∈ received) : ∃ left?, Account rules r (Effect.about r.ticket h.log) left? ∧
      ∀ left ∈ left?, Effect.about r.ticket h.log ≠ [] →
        h.connection.queue.head? = some { r with command := left } := by
  rw [hbooks.log.about_eq _ (hbooks.ticket_notMem_others hr)]
  exact hbooks.ledger.account_of_mem hbooks.nodup_tickets hr

lemma exists_isServed (hbooks : Books rules submitted received notes others h) {r : Request}
    (hr : r ∈ received) : ∃ left, IsServed rules h r left := by
  obtain ⟨left?, haccount, hfront⟩ := hbooks.account_of_mem hr
  have hmem (fault? : Option CommandFault) : .answer r.ticket fault? ∈ h.log ↔
      .answer r.ticket fault? ∈ Effect.about r.ticket h.log := by
    simp [Effect.about, Effect.ticket?]
  obtain ⟨payloads, left, htakes, hdelivered, hsucceeds, hleft⟩ := haccount.exists_takes
  have hpayloads : Effect.payloadsFor r.ticket h.log = payloads := by
    rw [Effect.payloadsFor, hdelivered, List.map_map]
    exact List.map_id _
  refine ⟨left, by rwa [hpayloads], (hmem none).trans hsucceeds, ?_, ?_, ?_⟩
  · intro fault hanswer
    exact haccount.eq_undelivered_of_answer ((hmem _).1 hanswer)
  · intro earlier fault? later hlog x hx hticket
    have habout : Effect.about r.ticket h.log = Effect.about r.ticket earlier ++
        .answer r.ticket fault? :: Effect.about r.ticket later := by
      rw [hlog, List.append_cons, Effect.about_append, Effect.about_append, List.append_cons]
      simp [Effect.about, Effect.ticket?]
    have hnil := haccount.eq_nil_of_answer habout
    have hkept : x ∈ Effect.about r.ticket later :=
      List.mem_filter.2 ⟨hx, by simpa using hticket⟩
    rw [hnil] at hkept
    cases hkept
  · intro hpart hunanswered
    obtain ⟨sends, ending, hnoted, -, ⟨hsome, -⟩ | ⟨-, fault?, rfl, -⟩⟩ := haccount.exists_ending
    · obtain ⟨left', rfl⟩ := Option.isSome_iff_exists.1 hsome
      obtain rfl := hleft left' rfl
      refine hfront left' rfl ?_
      rintro hnil
      rw [Effect.payloadsFor, hnil] at hpart
      exact hpart rfl
    · refine (hunanswered fault? ((hmem fault?).2 ?_)).elim
      rw [hnoted]
      exact List.mem_append_right _ (List.mem_singleton_self _)

/-- Payloads are delivered request by request. -/
lemma filterMap_delivered?_log (hbooks : Books rules submitted received notes others h) :
    h.log.filterMap Effect.delivered? = received.flatMap fun r =>
      (Effect.payloadsFor r.ticket h.log).map fun payload => (r.ticket, payload) := by
  rw [hbooks.log.delivered_eq, hbooks.ledger.filterMap_delivered?_eq hbooks.nodup_tickets]
  refine List.flatMap_congr fun r hr => ?_
  obtain ⟨left?, haccount, -⟩ := hbooks.account_of_mem hr
  obtain ⟨payloads, left, -, hdelivered, -⟩ := haccount.exists_takes
  rw [← hbooks.log.about_eq _ (hbooks.ticket_notMem_others hr), Effect.payloadsFor, hdelivered]
  simp

/-- Every ticket is answered at most once, and those that wait are not answered yet. -/
lemma answeredTickets_perm (hbooks : Books rules submitted received notes others h) :
    (Effect.answeredTickets h.log ++ h.connection.queue.map Request.ticket ++
      h.mailbox.map Request.ticket).Perm (List.range submitted.length) := by
  refine List.Perm.trans ?_ hbooks.tickets_perm
  refine List.Perm.append_right _ ?_
  rw [← hbooks.ledger.answeredTickets_append_queue]
  refine (hbooks.log.answered_perm.append_right _).trans ?_
  rw [List.append_assoc, List.append_assoc]
  exact List.perm_append_comm.append_left _

end Books

/-- A request that arrives without an authorized session is answered, and that is all. -/
lemma Entry.effects_of_not_authorized {e : Entry} {r : Request} (hr : e.received? = some r)
    (hidle : e.before.connection.IsIdle)
    (hsession : e.before.connection.session.isAuthorized = false) :
    e.effects =
      [.answer r.ticket (some (.undelivered (.sessionIs e.before.connection.session.phase)))] := by
  obtain ⟨hrunning, place, hoccasion, hplace⟩ := received?_eq_some_iff.1 hr
  set answer : Effect :=
    .answer r.ticket (some (.undelivered (.sessionIs e.before.connection.session.phase)))
  have hreact : e.before.connection.react e.happening.moment (.request r) =
      { connection := e.before.connection, effects := [answer] } :=
    Connection.onRequest_of_not_authorized hidle hsession _ r
  have hafter : e.after = Host.adopt
      { e.before with mailbox := e.before.mailbox.eraseIdx place }
      { connection := e.before.connection, effects := [answer] } := by
    rw [Entry.after, happen, hoccasion]
    dsimp only
    rw [hplace]
    dsimp only
    rw [handleRequestAt, if_pos hrunning, reactAt, if_pos hrunning, hreact]
  have hlog : e.after.log = e.before.log ++ [answer] := by
    rw [hafter, adopt_eq]
    split
    · simp [hidle hsession]
    · rfl
  rw [Entry.effects, hlog, List.drop_left]

/-- **Commands are delivered in order, and answered once and truthfully.**  In every run from a
start, the payloads that reach the link are those of the requests received, one after the other, a
first part of each.  Every request is served as `IsServed` says: the answer tells whether all its
payloads were sent, nothing is sent after it, and only the request at the front of the queue can be
sent in part.  A request that arrives without an authorized session is answered, and nothing is
sent.  No command is answered twice, and once the connection has ended and what waits is refused,
every one is answered. -/
theorem delivered_in_order_and_answered_once (config : GatewayConfig) (size : UInt16)
    (key : Octets) (m : Moment) :
    ∃ h, startAt { config with memorySize := some size } key m = .ok h ∧
      ∀ happenings : List Happening,
        let rules : Translator := { settings := config.commands, memorySize := size.toNat }
        let final := h.run happenings
        let submitted := happenings.filterMap Happening.submitted?
        let received := (h.history happenings).filterMap Entry.received?
        (∀ r ∈ received, IsRequestOf rules submitted r ∧ ∃ left, IsServed rules final r left) ∧
          (final.log.filterMap Effect.delivered? = received.flatMap fun r =>
            (Effect.payloadsFor r.ticket final.log).map fun payload => (r.ticket, payload)) ∧
          (∀ e ∈ h.history happenings, ∀ r, e.received? = some r →
            e.before.connection.session.isAuthorized = false →
            e.effects = [.answer r.ticket
              (some (.undelivered (.sessionIs e.before.connection.session.phase)))]) ∧
          (Effect.answeredTickets final.log).Nodup ∧
          (final.isRunning = false →
            (Effect.answeredTickets final.refuseWaiting.log).Perm (List.range submitted.length) ∧
            ∀ r ∈ final.mailbox,
              .answer r.ticket (some (.undelivered .stopped)) ∈ final.refuseWaiting.log) := by
  obtain ⟨h, notes, hstart, hbegin⟩ := exists_books_startAt config size key m
  refine ⟨h, hstart, fun happenings => ?_⟩
  intro rules final submitted received
  obtain ⟨notes', others, hbooks⟩ := hbegin.run happenings
  have htickets := hbooks.answeredTickets_perm
  refine ⟨fun r hr => ?_, hbooks.filterMap_delivered?_log, ?_, ?_, fun hended => ?_⟩
  · exact ⟨hbooks.isRequestOf r (List.mem_append_left _ hr), hbooks.exists_isServed hr⟩
  · intro e he r hr hsession
    obtain ⟨earlier, later, hsplit⟩ := List.append_of_mem he
    obtain ⟨past, -, hbefore⟩ := exists_of_history_eq hsplit
    obtain ⟨past_notes, past_others, hpast⟩ := hbegin.run past
    refine Entry.effects_of_not_authorized hr ?_ hsession
    rw [hbefore]
    exact hpast.isIdle
  · have hnodup := htickets.nodup_iff.2 List.nodup_range
    exact (List.nodup_append.1 (List.nodup_append.1 hnodup).1).1
  · -- the queue is empty by then, and each request that waits is refused
    rw [hbooks.queue_eq_nil hended, List.map_nil, List.append_nil] at htickets
    rw [log_refuseWaiting, Effect.answeredTickets_append, Effect.answeredTickets_map_answer]
    exact ⟨htickets, fun r hr => List.mem_append_right _ (List.mem_map.2 ⟨r, hr, rfl⟩)⟩

end Host

end SpaGateway
