import Mathlib.Tactic
import SpaGateway.Connection.Host

/-!
# Runs of a connection

A host decides in which order a connection meets what waits for it.  What is true of a connection
should not hang on that order, so this module leaves it open: a *run* is any finite sequence of
happenings, where commands are submitted, the connection takes one of the waiting requests, a
package arrives, the timer fires, or the connection is stopped, each in circumstances of its own.
The time of a happening is any number, also one before the last, the fresh key is any octets, and
each single send may fail.

A run starts with the connection's first turn and may go on after the connection has ended: then
nothing reacts any more, and the requests that are taken are refused.

`Entry.spec` says once what a step of a run can do: it is the turn of the connection, which is the
empty one if it does not react, and beyond that only requests are answered, and of the connection
only the queue and the sequence counter may move.
-/

namespace SpaGateway

/-- Whether an effect answers a request. -/
def Effect.IsAnswer : Effect → Prop
  | .answer _ _ => True
  | _ => False

namespace Host

/-! ## Happenings -/

/-- What can happen around a connection. -/
inductive Occasion where
  /-- A command is submitted. -/
  | submit (command : Command)
  /-- The request at a place among the waiting ones is taken. -/
  | take (place : Nat)
  /-- A package arrives from the spa. -/
  | arrive (package : Package)
  /-- The timer fires. -/
  | timer
  /-- The connection is to stop, or its link ends. -/
  | stop
  deriving DecidableEq, Inhabited

/-- An occasion with its circumstances. -/
structure Happening where
  occasion : Occasion
  moment : Moment

/-- Lets the connection react in given circumstances, if it runs. -/
def reactAt (h : Host) (m : Moment) (input : Input) : Host :=
  if h.isRunning then h.adopt (h.connection.react m input) else h

/-- Lets the connection handle a request in given circumstances. -/
def handleRequestAt (h : Host) (m : Moment) (request : Request) : Host :=
  if h.isRunning then h.reactAt m (.request request) else h.refuse request

/-- What comes of a happening. -/
def happen (h : Host) (happening : Happening) : Host :=
  match happening.occasion with
  | .submit command => h.submit command
  | .take place =>
    match h.mailbox[place]? with
    | none => h
    | some request =>
      { h with mailbox := h.mailbox.eraseIdx place }.handleRequestAt happening.moment request
  | .arrive package => h.reactAt happening.moment (.package package)
  | .timer => h.reactAt happening.moment .timer
  | .stop => { h.reactAt happening.moment .close with isRunning := false }

/-- A host at the start of a run, with the connection's first turn done. -/
def startAt (config : GatewayConfig) (key : Octets) (m : Moment) : Except GatewayFault Host := do
  let connection ← Connection.create config key m.now
  let h : Host := { connection, keys := fun _ => key }
  return h.adopt (connection.start m)

/-- The host after a run. -/
def run (h : Host) (happenings : List Happening) : Host := happenings.foldl happen h

/-! ## Histories -/

/-- One step of a run: the host before it and what happened. -/
structure Entry where
  before : Host
  happening : Happening

namespace Entry

/-- The host after the step. -/
def after (e : Entry) : Host := e.before.happen e.happening

/-- What was done in the step. -/
def effects (e : Entry) : List Effect := e.after.log.drop e.before.log.length

/-- What the connection reacted to in the step, if it did react. -/
def input? (e : Entry) : Option Input :=
  if e.before.isRunning then
    match e.happening.occasion with
    | .submit _ => none
    | .take place => e.before.mailbox[place]?.map .request
    | .arrive package => some (.package package)
    | .timer => some .timer
    | .stop => some .close
  else none

/-- The reaction of the connection; an empty turn if it did not react. -/
def turn (e : Entry) : Turn :=
  match e.input? with
  | none => { connection := e.before.connection }
  | some input => e.before.connection.react e.happening.moment input

end Entry

/-- The steps of a run. -/
def history (h : Host) : List Happening → List Entry
  | [] => []
  | happening :: happenings =>
    ⟨h, happening⟩ :: history (h.happen happening) happenings

@[simp] lemma run_nil (h : Host) : h.run [] = h := rfl

lemma run_append (h : Host) (first second : List Happening) :
    h.run (first ++ second) = (h.run first).run second := List.foldl_append

lemma history_append (h : Host) (first second : List Happening) :
    h.history (first ++ second) = h.history first ++ (h.run first).history second := by
  induction first generalizing h with
  | nil => rfl
  | cons happening first ih =>
    rw [List.cons_append, history, ih, history, List.cons_append]
    rfl

lemma history_concat (h : Host) (happenings : List Happening) (happening : Happening) :
    h.history (happenings ++ [happening]) =
      h.history happenings ++ [⟨h.run happenings, happening⟩] := by
  rw [history_append]
  rfl

/-- A step of a run comes after the run that led to it. -/
lemma exists_of_history_eq {h : Host} {happenings : List Happening} {earlier later : List Entry}
    {e : Entry} (hhistory : h.history happenings = earlier ++ e :: later) :
    ∃ past, earlier = h.history past ∧ e.before = h.run past := by
  induction happenings generalizing h earlier with
  | nil => simp [history] at hhistory
  | cons happening happenings ih =>
    rw [history] at hhistory
    cases earlier with
    | nil =>
      obtain ⟨rfl, -⟩ := List.cons.inj hhistory
      exact ⟨[], rfl, rfl⟩
    | cons first earlier =>
      obtain ⟨rfl, hrest⟩ := List.cons.inj hhistory
      obtain ⟨past, rfl, hbefore⟩ := ih hrest
      exact ⟨happening :: past, rfl, hbefore⟩

/-- A run leads to what its last step leads to. -/
lemma run_of_history_eq {h : Host} {happenings : List Happening} {earlier : List Entry} {e : Entry}
    (hhistory : h.history happenings = earlier ++ [e]) : h.run happenings = e.after := by
  rcases List.eq_nil_or_concat' happenings with rfl | ⟨past, happening, rfl⟩
  · simp [history] at hhistory
  · rw [history_concat] at hhistory
    obtain ⟨-, hlast⟩ := List.append_inj' hhistory rfl
    obtain rfl := List.singleton_inj.1 hlast
    exact run_append h past [happening]

/-! ## What is done beyond a turn -/

/-- `h'` continues `h` by answers to requests; of the connection only the queue and the sequence
counter may have moved. -/
structure Aside (h h' : Host) : Prop where
  connection : ∃ queue translator, h'.connection = { h.connection with queue, translator }
  log : ∃ answers, h'.log = h.log ++ answers ∧ ∀ x ∈ answers, x.IsAnswer

/-- The host with a turn written down, before the connection breaks off. -/
def record (h : Host) (t : Turn) : Host :=
  { h with connection := t.connection, log := h.log ++ t.effects }

namespace Aside

variable {h h' h'' : Host}

lemma refl (h : Host) : Aside h h := ⟨⟨_, _, rfl⟩, [], by simp⟩

lemma trans (first : Aside h h') (second : Aside h' h'') : Aside h h'' := by
  obtain ⟨⟨queue, translator, hc⟩, answers, hlog, hall⟩ := first
  obtain ⟨⟨queue', translator', hc'⟩, answers', hlog', hall'⟩ := second
  refine ⟨⟨queue', translator', by rw [hc', hc]⟩, answers ++ answers', ?_, ?_⟩
  · rw [hlog', hlog, List.append_assoc]
  · intro x hx
    rcases List.mem_append.1 hx with hx | hx
    · exact hall x hx
    · exact hall' x hx

end Aside

lemma foldl_refuse (h : Host) (requests : List Request) :
    requests.foldl refuse h =
      { h with log := h.log ++ requests.map fun r =>
          .answer r.ticket (some (.undelivered .stopped)) } := by
  induction requests generalizing h with
  | nil => simp
  | cons r requests ih =>
    rw [List.foldl_cons, ih, refuse, answer]
    simp

/-- Adopting a turn adds refusals of the requests that the connection held, if it breaks off. -/
lemma adopt_eq (h : Host) (t : Turn) :
    h.adopt t =
      if t.connection.outlastsClock then
        { h with
          connection := { t.connection with queue := [] }, isRunning := false, inbox := []
          log := h.log ++ t.effects ++ t.connection.queue.map fun r =>
            .answer r.ticket (some (.undelivered .stopped)) }
      else h.record t := by
  unfold adopt
  dsimp only
  split
  · rw [breakOff, foldl_refuse]
  · rfl

lemma aside_adopt (h : Host) (t : Turn) : Aside (h.record t) (h.adopt t) := by
  rw [adopt_eq]
  split
  · exact ⟨⟨[], t.connection.translator, rfl⟩, _, rfl, by simp [Effect.IsAnswer]⟩
  · exact .refl _

/-- A connection runs on unless it would have to wait beyond the clock's end. -/
lemma isRunning_adopt (h : Host) (t : Turn) :
    (h.adopt t).isRunning = (h.isRunning && !t.connection.outlastsClock) := by
  rw [adopt_eq]
  cases hlasts : t.connection.outlastsClock <;> simp [record]

/-- A connection that runs on waits for no time beyond the clock's end. -/
lemma outlastsClock_adopt {h : Host} {t : Turn} (hrunning : (h.adopt t).isRunning = true) :
    (h.adopt t).connection.outlastsClock = false := by
  rw [adopt_eq] at hrunning ⊢
  split at hrunning
  · cases hrunning
  · rename_i hlasts
    rw [if_neg hlasts]
    exact Bool.eq_false_iff.2 hlasts

lemma isRunning_submit (h : Host) (command : Command) :
    (h.submit command).isRunning = h.isRunning := by
  unfold submit
  dsimp only
  split
  · rfl
  · split <;> rfl

lemma queue_submit (h : Host) (command : Command) :
    (h.submit command).connection.queue = h.connection.queue := by
  unfold submit
  dsimp only
  split
  · rfl
  · split <;> rfl

lemma aside_submit (h : Host) (command : Command) : Aside h (h.submit command) := by
  unfold submit
  dsimp only
  split
  · exact ⟨⟨_, _, rfl⟩, [_], rfl, by simp [Effect.IsAnswer]⟩
  · split
    · exact ⟨⟨_, _, rfl⟩, [_], rfl, by simp [Effect.IsAnswer]⟩
    · exact ⟨⟨_, _, rfl⟩, [], by simp⟩

/-! ## What a step does -/

namespace Entry

variable (e : Entry)

section

variable {e}

lemma input?_of_stopped (h : e.before.isRunning = false) : e.input? = none := by
  rw [input?, if_neg (by simp [h])]

/-- What happened, going by what the connection reacted to. -/
lemma occasion_of_input? {input : Input} (h : e.input? = some input) :
    match input with
    | .package package => e.happening.occasion = .arrive package
    | .request _ => ∃ place, e.happening.occasion = .take place
    | .timer => e.happening.occasion = .timer
    | .close => e.happening.occasion = .stop := by
  unfold input? at h
  split at h
  · cases hoccasion : e.happening.occasion with
    | submit => simp [hoccasion] at h
    | take place =>
      simp only [hoccasion, Option.map_eq_some_iff] at h
      obtain ⟨request, -, rfl⟩ := h
      exact ⟨place, rfl⟩
    | arrive | timer | stop =>
      simp only [hoccasion, Option.some.injEq] at h
      subst h
      rfl
  · cases h

end

/-- A step that the connection reacts to adopts its turn; only the mailbox has changed by then. -/
lemma after_of_input? {input : Input} (hinput : e.input? = some input) :
    e.before.isRunning = true ∧ ∃ mailbox,
      let adopted := { e.before with mailbox }.adopt e.turn
      e.after = if e.happening.occasion = .stop then { adopted with isRunning := false }
        else adopted := by
  have hturn : e.turn = e.before.connection.react e.happening.moment input := by
    simp [turn, hinput]
  unfold input? at hinput
  split at hinput
  · rename_i hrunning
    refine ⟨hrunning, ?_⟩
    have hreact : e.before.reactAt e.happening.moment input = e.before.adopt e.turn := by
      rw [reactAt, if_pos hrunning, hturn]
    rw [after, happen]
    cases hoccasion : e.happening.occasion with
    | submit command => simp [hoccasion] at hinput
    | take place =>
      rw [hoccasion] at hinput
      obtain ⟨request, hrequest, rfl⟩ := Option.map_eq_some_iff.1 hinput
      refine ⟨e.before.mailbox.eraseIdx place, ?_⟩
      simp [hrequest, handleRequestAt, reactAt, hrunning, hturn]
    | arrive | timer =>
      rw [hoccasion] at hinput
      obtain rfl := Option.some.inj hinput
      exact ⟨e.before.mailbox, hreact.trans (if_neg nofun).symm⟩
    | stop =>
      rw [hoccasion] at hinput
      obtain rfl := Option.some.inj hinput
      have hstopped := congrArg (fun h : Host => { h with isRunning := false }) hreact
      exact ⟨e.before.mailbox, hstopped.trans (if_pos rfl).symm⟩
  · cases hinput

/-- A step that the connection does not react to leaves it be. -/
lemma after_of_input?_eq_none (hinput : e.input? = none) :
    Aside e.before e.after ∧ e.after.connection.queue = e.before.connection.queue ∧
      (e.after.isRunning = true ↔
        e.before.isRunning = true ∧ e.happening.occasion ≠ .stop) := by
  have hstopped (hall : ∀ command place, e.happening.occasion ≠ .submit command ∧
      e.happening.occasion ≠ .take place) : e.before.isRunning = false := by
    by_contra hrunning
    rw [input?, if_pos (by simpa using hrunning)] at hinput
    cases hoccasion : e.happening.occasion with
    | submit command => exact (hall command 0).1 hoccasion
    | take place => exact (hall default place).2 hoccasion
    | arrive | timer | stop => simp [hoccasion] at hinput
  rw [after, happen]
  cases hoccasion : e.happening.occasion with
  | submit command => exact ⟨aside_submit _ _, queue_submit _ _, by simp [isRunning_submit]⟩
  | take place =>
    dsimp only
    split
    · exact ⟨.refl _, rfl, by simp⟩
    · rename_i request hrequest
      have hrunning : e.before.isRunning = false := by
        by_contra hrunning
        rw [input?, if_pos (by simpa using hrunning), hoccasion] at hinput
        simp [hrequest] at hinput
      rw [handleRequestAt, if_neg (by simp [hrunning])]
      exact ⟨⟨⟨_, _, rfl⟩, [_], rfl, by simp [Effect.IsAnswer]⟩, rfl, by simp [refuse, answer]⟩
  | arrive | timer | stop =>
    have hrunning := hstopped (by simp [hoccasion])
    dsimp only
    rw [reactAt, if_neg (by simp [hrunning])]
    exact ⟨⟨⟨_, _, rfl⟩, [], by simp⟩, rfl, by simp [hrunning]⟩

lemma aside_happen : Aside (e.before.record e.turn) (e.before.happen e.happening) := by
  rw [← after]
  cases hinput : e.input? with
  | none =>
    have hidle : e.before.record e.turn = e.before := by simp [record, turn, hinput]
    rw [hidle]
    exact (e.after_of_input?_eq_none hinput).1
  | some input =>
    obtain ⟨-, mailbox, hafter⟩ := e.after_of_input? hinput
    obtain ⟨hc, hlog⟩ := aside_adopt { e.before with mailbox } e.turn
    rw [hafter]
    split <;> exact ⟨hc, hlog⟩

/-- **What a step of a run can do.** -/
theorem spec :
    (∃ queue translator, e.after.connection = { e.turn.connection with queue, translator }) ∧
      ∃ answers, e.effects = e.turn.effects ++ answers ∧ ∀ x ∈ answers, x.IsAnswer := by
  obtain ⟨hc, answers, hlog, hall⟩ := e.aside_happen
  refine ⟨hc, answers, ?_, hall⟩
  rw [effects, after, hlog, record, List.append_assoc, List.drop_left]

/-- A step that the connection does not react to answers requests at most. -/
lemma isAnswer_of_mem_effects (hinput : e.input? = none) : ∀ x ∈ e.effects, x.IsAnswer := by
  obtain ⟨-, answers, heffects, hall⟩ := e.spec
  rw [heffects, turn, hinput, List.nil_append]
  exact hall

/-- **When a connection runs on**: it was running, it is not stopped, and its turn waits for no time
beyond the clock's end. -/
theorem isRunning_after_iff :
    e.after.isRunning = true ↔ e.before.isRunning = true ∧ e.happening.occasion ≠ .stop ∧
      (e.input?.isSome → e.turn.connection.outlastsClock = false) := by
  cases hinput : e.input? with
  | none => simpa using (e.after_of_input?_eq_none hinput).2.2
  | some input =>
    obtain ⟨hrunning, mailbox, hafter⟩ := e.after_of_input? hinput
    rw [hafter]
    split <;> simp [*, isRunning_adopt]

/-- A connection that has ended stays so. -/
lemma isRunning_after_of_stopped (hbefore : e.before.isRunning = false) :
    e.after.isRunning = false := by
  by_contra hrunning
  have hbefore' := (e.isRunning_after_iff.1 (by simpa using hrunning)).1
  cases hbefore.symm.trans hbefore'

/-- A connection that runs on is the one of its turn; only its sequence counter may have moved. -/
lemma connection_after_of_isRunning (hafter : e.after.isRunning = true) :
    ∃ translator, e.after.connection = { e.turn.connection with translator } := by
  obtain ⟨-, hstop, hlasts⟩ := e.isRunning_after_iff.1 hafter
  cases hinput : e.input? with
  | none =>
    obtain ⟨⟨⟨queue, translator, hc⟩, -⟩, hqueue, -⟩ := e.after_of_input?_eq_none hinput
    obtain rfl : queue = e.before.connection.queue := by rw [← hqueue, hc]
    exact ⟨translator, by rw [hc, turn, hinput]⟩
  | some input =>
    obtain ⟨-, mailbox, hadopted⟩ := e.after_of_input? hinput
    rw [hadopted, if_neg hstop, adopt_eq, hlasts (by simp [hinput])]
    exact ⟨_, rfl⟩

/-- What every reaction but the last keeps, a connection that runs on keeps.  Submitting a command
may move the sequence counter, so that must not matter. -/
lemma keeps_of_isRunning {P : Connection → Prop}
    (hcounter : ∀ c translator, P c → P { c with translator })
    (hreact : ∀ c m input, input ≠ .close → P c → P (c.react m input).connection)
    (h : e.before.isRunning = true → P e.before.connection) (hafter : e.after.isRunning = true) :
    P e.after.connection := by
  obtain ⟨hbefore, hstop, -⟩ := e.isRunning_after_iff.1 hafter
  obtain ⟨translator, hc⟩ := e.connection_after_of_isRunning hafter
  rw [hc]
  refine hcounter _ translator ?_
  cases hinput : e.input? with
  | none =>
    rw [turn, hinput]
    exact h hbefore
  | some input =>
    have hother : input ≠ .close := by
      rintro rfl
      exact hstop (occasion_of_input? hinput)
    rw [turn, hinput]
    exact hreact _ _ input hother (h hbefore)

/-- The log grows by what is done in each step. -/
lemma log_after : e.after.log = e.before.log ++ e.effects := by
  obtain ⟨-, answers, hlog, -⟩ := e.aside_happen
  rw [effects, after, hlog, record, List.append_assoc, List.drop_left]

end Entry

/-- So whatever happens, a connection keeps it as long as it runs. -/
lemma keeps_run {P : Connection → Prop} (hcounter : ∀ c translator, P c → P { c with translator })
    (hreact : ∀ c m input, input ≠ .close → P c → P (c.react m input).connection) {h : Host}
    (hh : h.isRunning = true → P h.connection) (happenings : List Happening)
    (hrunning : (h.run happenings).isRunning = true) : P (h.run happenings).connection := by
  induction happenings using List.reverseRecOn with
  | nil => exact hh hrunning
  | append_singleton happenings happening ih =>
    rw [run_append] at hrunning ⊢
    exact Entry.keeps_of_isRunning ⟨h.run happenings, happening⟩ hcounter hreact ih hrunning

lemma log_run (h : Host) (happenings : List Happening) :
    (h.run happenings).log = h.log ++ (h.history happenings).flatMap Entry.effects := by
  induction happenings generalizing h with
  | nil => simp [run, history]
  | cons happening happenings ih =>
    have hafter := (Entry.mk h happening).log_after
    rw [Entry.after] at hafter
    rw [run, List.foldl_cons, ← run, ih, hafter, history, List.flatMap_cons, List.append_assoc]

/-- The connection of a configuration with this memory size. -/
def created (config : GatewayConfig) (size : UInt16) (key : Octets) (now : Nat) : Connection :=
  { session := .create config.sessionSettings key false now
    image := .empty size.toNat
    translator := { settings := config.commands, memorySize := size.toNat }
    nextSend := now
    fullStateInterval := config.fullStateInterval * GatewayConfig.second }

/-- A run starts with the first turn of that connection. -/
lemma startAt_eq {config : GatewayConfig} {size : UInt16} (hsize : config.memorySize = some size)
    (key : Octets) (m : Moment) :
    startAt config key m = .ok (Host.adopt
      { connection := created config size key m.now, keys := fun _ => key }
      ((created config size key m.now).start m)) := by
  rw [startAt, Connection.create, hsize]
  rfl

/-- A run starts with an empty image and a hello under way. -/
lemma startAt_eq_ok {config : GatewayConfig} {size : UInt16} (hsize : config.memorySize = some size)
    (key : Octets) (m : Moment) :
    ∃ h, startAt config key m = .ok h ∧ h.connection.image = .empty size.toNat ∧
      h.connection.download = none ∧
      ∃ answers, h.log = .send .session (.hello key) (m.fault? 0) :: answers ∧
        ∀ x ∈ answers, x.IsAnswer := by
  refine ⟨_, startAt_eq hsize key m, ?_⟩
  obtain ⟨⟨queue, translator, hc⟩, answers, hlog, hall⟩ := aside_adopt
    { connection := created config size key m.now, keys := fun _ => key }
    ((created config size key m.now).start m)
  exact ⟨by rw [hc]; rfl, by rw [hc]; rfl, answers, hlog, hall⟩

/-! ## States of a host -/

/-- Whether a host can get into this state in a run. -/
def IsReachable (h : Host) : Prop :=
  ∃ config key m begun happenings, startAt config key m = .ok begun ∧ h = begun.run happenings

/-- A connection that is begun and runs waits for no time beyond the clock's end. -/
lemma outlastsClock_startAt {config : GatewayConfig} {key : Octets} {m : Moment} {begun : Host}
    (hstart : startAt config key m = .ok begun) (hrunning : begun.isRunning = true) :
    begun.connection.outlastsClock = false := by
  cases hsize : config.memorySize with
  | none =>
    rw [startAt, Connection.create, hsize] at hstart
    cases hstart
  | some size =>
    rw [startAt_eq hsize] at hstart
    obtain rfl := Except.ok.inj hstart
    exact outlastsClock_adopt hrunning

/-- So does one that runs on. -/
lemma Entry.outlastsClock_after {e : Entry}
    (hbefore : e.before.isRunning = true → e.before.connection.outlastsClock = false)
    (hafter : e.after.isRunning = true) : e.after.connection.outlastsClock = false := by
  obtain ⟨hrunning, -, hlasts⟩ := e.isRunning_after_iff.1 hafter
  obtain ⟨translator, hc⟩ := e.connection_after_of_isRunning hafter
  rw [hc]
  cases hinput : e.input? with
  | none =>
    rw [turn, hinput]
    exact hbefore hrunning
  | some input => exact hlasts (by simp [hinput])

lemma IsReachable.outlastsClock {h : Host} (hh : h.IsReachable) (hrunning : h.isRunning = true) :
    h.connection.outlastsClock = false := by
  obtain ⟨config, key, m, begun, happenings, hstart, rfl⟩ := hh
  induction happenings using List.reverseRecOn with
  | nil => exact outlastsClock_startAt hstart hrunning
  | append_singleton happenings happening ih =>
    rw [run_append] at hrunning ⊢
    exact Entry.outlastsClock_after (e := ⟨begun.run happenings, happening⟩) ih hrunning

end Host

end SpaGateway
