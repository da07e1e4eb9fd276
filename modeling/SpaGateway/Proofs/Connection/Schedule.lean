import Mathlib.Tactic
import SpaGateway.Proofs.Connection.Run

/-!
# The host's schedule

A host lets its connection handle what waits in a fixed order, with the clock and the link that it
keeps.  This module shows that whatever it does is a run: `exists_run_of_rounds` finds, for a host
that was started and then told to do things, happenings that lead to the same connection with the
same log.  So what holds of every run holds of every host.

The host and the run need not be equal.  The host keeps more, such as the packages that wait, and it
moves requests to and fro in front of the mailbox, so they are compared by `Agrees`, which looks
only at what a run reads and writes, and at the waiting requests without their order.
-/

namespace SpaGateway

namespace Host

/-! ## Agreement -/

/-- Two hosts agree in what a run reads and writes.  Requests may wait in another order. -/
structure Agrees (h k : Host) : Prop where
  connection : h.connection = k.connection
  isRunning : h.isRunning = k.isRunning
  tickets : h.tickets = k.tickets
  log : h.log = k.log
  mailbox : h.mailbox.Perm k.mailbox

namespace Agrees

variable {h k l : Host}

lemma refl (h : Host) : h.Agrees h := ⟨rfl, rfl, rfl, rfl, .refl _⟩

lemma trans (first : h.Agrees k) (second : k.Agrees l) : h.Agrees l :=
  ⟨first.connection.trans second.connection, first.isRunning.trans second.isRunning,
    first.tickets.trans second.tickets, first.log.trans second.log,
    first.mailbox.trans second.mailbox⟩

lemma reactAt (hk : h.Agrees k) (m : Moment) (input : Input) :
    (h.reactAt m input).Agrees (k.reactAt m input) := by
  obtain ⟨hc, hrunning, htickets, hlog, hmailbox⟩ := hk
  unfold Host.reactAt
  rw [hrunning, hc, adopt_eq, adopt_eq]
  split
  · split
    · exact ⟨rfl, rfl, htickets, by rw [hlog], hmailbox⟩
    · exact ⟨rfl, hrunning, htickets, by simp only [record, hlog], hmailbox⟩
  · exact ⟨hc, hrunning, htickets, hlog, hmailbox⟩

lemma handleRequestAt (hk : h.Agrees k) (m : Moment) (request : Request) :
    (h.handleRequestAt m request).Agrees (k.handleRequestAt m request) := by
  unfold Host.handleRequestAt
  rw [hk.isRunning]
  split
  · exact hk.reactAt m _
  · exact ⟨hk.connection, hk.isRunning, hk.tickets, by simp only [refuse, answer, hk.log],
      hk.mailbox⟩

lemma submit (hk : h.Agrees k) (command : Command) :
    (h.submit command).Agrees (k.submit command) := by
  obtain ⟨hc, hrunning, htickets, hlog, hmailbox⟩ := hk
  unfold Host.submit
  rw [hc, htickets]
  dsimp only
  split
  · exact ⟨rfl, hrunning, rfl, by simp only [answer, hlog], hmailbox⟩
  · split
    · exact ⟨rfl, hrunning, rfl, by simp only [answer, hlog], hmailbox⟩
    · exact ⟨rfl, hrunning, rfl, hlog, hmailbox.append_right _⟩

/-- What happens to one host can happen to the other.  A request is found at another place. -/
lemma exists_happen (hk : h.Agrees k) (happening : Happening) :
    ∃ happening', (h.happen happening').Agrees (k.happen happening) := by
  obtain ⟨occasion, m⟩ := happening
  cases occasion with
  | submit command => exact ⟨⟨.submit command, m⟩, hk.submit command⟩
  | take place =>
    cases hrequest : k.mailbox[place]? with
    | none =>
      refine ⟨⟨.take h.mailbox.length, m⟩, ?_⟩
      simpa [happen, hrequest] using hk
    | some request =>
      obtain ⟨place', hrequest'⟩ := List.mem_iff_getElem?.1
        (hk.mailbox.mem_iff.2 (List.mem_of_getElem? hrequest))
      have hrest : (h.mailbox.eraseIdx place').Perm (k.mailbox.eraseIdx place) :=
        (List.perm_eraseIdx_of_getElem?_eq (hrequest'.trans hrequest.symm)).2 hk.mailbox
      refine ⟨⟨.take place', m⟩, ?_⟩
      have hothers : { h with mailbox := h.mailbox.eraseIdx place' }.Agrees
          { k with mailbox := k.mailbox.eraseIdx place } :=
        ⟨hk.connection, hk.isRunning, hk.tickets, hk.log, hrest⟩
      simpa [happen, hrequest, hrequest'] using hothers.handleRequestAt m request
  | arrive package => exact ⟨⟨.arrive package, m⟩, hk.reactAt m _⟩
  | timer => exact ⟨⟨.timer, m⟩, hk.reactAt m _⟩
  | stop =>
    obtain ⟨hc, -, htickets, hlog, hmailbox⟩ := hk.reactAt m .close
    exact ⟨⟨.stop, m⟩, hc, rfl, htickets, hlog, hmailbox⟩

end Agrees

/-! ## What a run leads to -/

/-- A run of `h` leads to `k`, as far as a run goes. -/
def Leads (h k : Host) : Prop := ∃ happenings, (h.run happenings).Agrees k

namespace Leads

variable {h k l : Host}

lemma of_agrees (hk : h.Agrees k) : h.Leads k := ⟨[], hk⟩

lemma refl (h : Host) : h.Leads h := .of_agrees (.refl h)

lemma happen (hk : h.Leads k) (happening : Happening) : h.Leads (k.happen happening) := by
  obtain ⟨happenings, hagrees⟩ := hk
  obtain ⟨happening', hagrees'⟩ := hagrees.exists_happen happening
  refine ⟨happenings ++ [happening'], ?_⟩
  rw [run_append]
  exact hagrees'

lemma agrees (hk : h.Leads k) (hl : k.Agrees l) : h.Leads l := by
  obtain ⟨happenings, hagrees⟩ := hk
  exact ⟨happenings, hagrees.trans hl⟩

lemma run (hk : h.Leads k) (happenings : List Happening) : h.Leads (k.run happenings) := by
  induction happenings generalizing k with
  | nil => exact hk
  | cons happening happenings ih => exact ih (hk.happen happening)

lemma trans (first : h.Leads k) (second : k.Leads l) : h.Leads l := by
  obtain ⟨happenings, hagrees⟩ := second
  exact (first.run happenings).agrees hagrees

/-- A host that does several things one after the other does what a run can do. -/
lemma foldl {α : Type} {act : Host → α → Host} (hact : ∀ h a, Leads h (act h a)) (actions : List α)
    (h : Host) : h.Leads (actions.foldl act h) := by
  induction actions generalizing h with
  | nil => exact .refl h
  | cons a actions ih => exact (hact h a).trans (ih (act h a))

end Leads

/-! ## What waits is handled -/

lemma leads_react_package (h : Host) (package : Package) : h.Leads (h.react (.package package)) :=
  (Leads.refl h).happen ⟨.arrive package, h.moment⟩

lemma leads_stop (h : Host) : h.Leads h.stop :=
  ((Leads.refl h).happen ⟨.stop, h.moment⟩).agrees ⟨rfl, rfl, rfl, rfl, .refl _⟩

lemma leads_handlePackages (h : Host) : h.Leads h.handlePackages := by
  have hemptied : h.Agrees { h with inbox := [] } := ⟨rfl, rfl, rfl, rfl, .refl _⟩
  exact (Leads.of_agrees hemptied).trans (.foldl leads_react_package h.inbox _)

/-- Handling a request does not touch those that wait. -/
lemma handleRequestAt_mailbox (h : Host) (waiting : List Request) (m : Moment) (request : Request) :
    { h with mailbox := waiting }.handleRequestAt m request =
      { h.handleRequestAt m request with mailbox := waiting } := by
  unfold handleRequestAt reactAt
  dsimp only
  split
  · rw [adopt_eq, adopt_eq]
    split <;> rfl
  · rfl

/-- Requests that are put aside and handled one by one might as well have waited. -/
lemma leads_foldl_handleRequest (requests rest : List Request) (h : Host) :
    Leads { h with mailbox := requests ++ rest }
      (requests.foldl handleRequest { h with mailbox := rest }) := by
  induction requests generalizing h with
  | nil => exact .refl _
  | cons request requests ih =>
    have htaken : { h with mailbox := request :: (requests ++ rest) }.happen
        ⟨.take 0, h.moment⟩ =
          { h.handleRequestAt h.moment request with mailbox := requests ++ rest } :=
      h.handleRequestAt_mailbox (requests ++ rest) h.moment request
    have hhandled : { h with mailbox := rest }.handleRequest request =
        { h.handleRequestAt h.moment request with mailbox := rest } :=
      h.handleRequestAt_mailbox rest h.moment request
    have hfirst := (Leads.refl { h with mailbox := request :: (requests ++ rest) }).happen
      ⟨.take 0, h.moment⟩
    rw [htaken] at hfirst
    rw [List.foldl_cons, hhandled]
    exact hfirst.trans (ih _)

lemma leads_handleRequests (h : Host) : h.Leads h.handleRequests := by
  have hwhole := leads_foldl_handleRequest (h.mailbox.take mailboxSize)
    (h.mailbox.drop mailboxSize) h
  rwa [List.take_append_drop] at hwhole

lemma leads_fireTimer (h : Host) : h.Leads h.fireTimer := by
  unfold fireTimer
  split
  · exact ((Leads.refl h).happen ⟨.timer, h.moment⟩).agrees ⟨rfl, rfl, rfl, rfl, .refl _⟩
  · exact .refl h

lemma leads_handleAll (h : Host) : h.Leads h.handleAll := by
  unfold handleAll
  have hfirst : h.Leads (if h.stopRequested then h.stop else h.handlePackages) := by
    split
    · exact leads_stop h
    · exact leads_handlePackages h
  generalize (if h.stopRequested then h.stop else h.handlePackages) = first at hfirst
  have hsecond : h.Leads (if first.inboxEnded then first.stop else first) := by
    split
    · exact hfirst.trans (leads_stop first)
    · exact hfirst
  exact hsecond.trans ((leads_handleRequests _).trans (leads_fireTimer _))

lemma leads_handleRounds (rounds : Nat) (h : Host) : h.Leads (handleRounds rounds h) := by
  induction rounds generalizing h with
  | zero => exact .refl h
  | succ rounds ih => exact (leads_handleAll h).trans (ih _)

lemma leads_settle (h : Host) : h.Leads h.settle := by
  set handled := handleRounds (h.mailbox.length / mailboxSize + 1) h with hhandled
  have hclock : handled.Agrees { handled with alarm := handled.now } :=
    ⟨rfl, rfl, rfl, rfl, .refl _⟩
  exact ((leads_handleRounds _ h).agrees hclock).trans (leads_fireTimer _)

/-! ## What is done from outside -/

lemma leads_act (h : Host) (action : Action) : h.Leads (h.act action) := by
  cases action with
  | arrive package =>
    refine .of_agrees ?_
    unfold act deliver
    dsimp only
    split <;> exact ⟨rfl, rfl, rfl, rfl, .refl _⟩
  | submit command => exact (Leads.refl h).happen ⟨.submit command, h.moment⟩
  | endInbox | stop | advance => exact .of_agrees ⟨rfl, rfl, rfl, rfl, .refl _⟩

/-- New requests come after those that wait. -/
lemma act_mailbox (h : Host) (waiting : List Request) (action : Action) :
    { h with mailbox := waiting ++ h.mailbox }.act action =
      { h.act action with mailbox := waiting ++ (h.act action).mailbox } := by
  cases action with
  | arrive package =>
    unfold act deliver isReceiving
    dsimp only
    split <;> rfl
  | submit command =>
    unfold act submit
    dsimp only
    split
    · rfl
    · split
      · rfl
      · simp
  | endInbox | stop | advance => rfl

lemma foldl_act_mailbox (h : Host) (waiting : List Request) (actions : List Action) :
    actions.foldl act { h with mailbox := waiting ++ h.mailbox } =
      { actions.foldl act h with mailbox := waiting ++ (actions.foldl act h).mailbox } := by
  induction actions generalizing h with
  | nil => rfl
  | cons action actions ih => rw [List.foldl_cons, act_mailbox, ih, List.foldl_cons]

/-- Requests that take the room in the mailbox first only change the order of those that wait. -/
lemma leads_actAmidst (h : Host) (actions : List Action) : h.Leads (h.actAmidst actions) := by
  refine (Leads.foldl leads_act actions h).agrees ?_
  set emptied : Host := { h with mailbox := [] }
  have hwhole : actions.foldl act h =
      { actions.foldl act emptied with
        mailbox := h.mailbox ++ (actions.foldl act emptied).mailbox } := by
    rw [← foldl_act_mailbox, List.append_nil]
  rw [hwhole]
  set fresh := (actions.foldl act emptied).mailbox
  have horder : (h.mailbox ++ fresh).Perm
      (fresh.take (mailboxSize - h.mailbox.length) ++ h.mailbox ++
        fresh.drop (mailboxSize - h.mailbox.length)) := by
    refine .trans ?_ (List.perm_append_comm.append_right _)
    rw [List.append_assoc, List.take_append_drop]
  exact ⟨rfl, rfl, rfl, rfl, horder⟩

/-- **Whatever is done to a host at once, it does what a run can do.** -/
theorem leads_actTogether (h : Host) (actions : List Action) : h.Leads (h.actTogether actions) := by
  unfold actTogether
  exact (Leads.foldl leads_act _ h).trans
    ((leads_handleAll _).trans ((leads_actAmidst _ _).trans (leads_settle _)))

/-- One round of a host's life: the link is set, and then several things are done at once. -/
structure Round where
  linkFault : Option GatewayFault
  actions : List Action

/-- Lives through a round. -/
def live (h : Host) (r : Round) : Host := (h.setLinkFault r.linkFault).actTogether r.actions

/-- **The life of a host is a run.**  A host that was started, and whatever is done to it round by
round, has the connection and the log of a run. -/
theorem exists_run_of_rounds {config : GatewayConfig} {keys : Nat → Octets}
    {linkFault : Option GatewayFault} {uptime : Nat} {h : Host}
    (hstart : start config keys linkFault uptime = .ok h) (rounds : List Round) :
    ∃ m h₀ happenings, startAt config (keys 0) m = .ok h₀ ∧
      (h₀.run happenings).connection = (rounds.foldl live h).connection ∧
      (h₀.run happenings).log = (rounds.foldl live h).log := by
  have hlive (h : Host) (r : Round) : h.Leads (h.live r) := by
    have hset : h.Agrees (h.setLinkFault r.linkFault) := ⟨rfl, rfl, rfl, rfl, .refl _⟩
    exact (Leads.of_agrees hset).trans (leads_actTogether _ _)
  set m : Moment := { now := uptime, freshKey := keys 1, fault? := fun _ => linkFault }
  unfold start at hstart
  unfold startAt
  cases hcreate : Connection.create config (keys 0) uptime with
  | error fault =>
    rw [hcreate] at hstart
    cases hstart
  | ok c =>
    rw [hcreate] at hstart
    obtain rfl := Except.ok.inj hstart
    have hfirst : (adopt { connection := c, keys := fun _ => keys 0 } (c.start m)).Agrees
        (adopt { connection := c, now := uptime, alarm := uptime, keys, keysUsed := 1, linkFault }
          (c.start m)) := by
      rw [adopt_eq, adopt_eq]
      split <;> exact ⟨rfl, rfl, rfl, rfl, .refl _⟩
    obtain ⟨happenings, hagrees⟩ := (Leads.of_agrees hfirst).trans (.foldl hlive rounds _)
    refine ⟨m, _, happenings, ?_, hagrees.connection, hagrees.log⟩
    rw [show m.now = uptime from rfl, hcreate]
    rfl

end Host

end SpaGateway
