import Mathlib.Tactic
import SpaGateway.Proofs.Connection.Completion
import SpaGateway.Proofs.Connection.Delivery
import SpaGateway.Proofs.Payload.Layout

/-!
# Keys are not pressed too fast

After a key press the next command payload has to wait, whatever request it is of.  A connection
remembers until when, and that time outlives the request: expiries, failed sends and the requests
that come later leave it alone.

`Pace` says what is relied on.  The next payload is allowed only when the delay has passed since
every key press that was sent, and every command that waits is spaced, or presses no key.  Only a
payload that is sent moves the time from which the next one is allowed, and never back, since none
is sent before that time.  So it does no harm if the clock goes back meanwhile.

`Turn.KeepsPace.flushQueue` follows the payloads as they leave the queue, and
`Host.key_presses_paced` says of every run what comes of that.
-/

namespace SpaGateway

/-! ## Key presses -/

/-- Whether this presses a key. -/
def Payload.isKeyPress : Payload → Bool
  | pack _ _ (.keyPress _) => true
  | _ => false

/-- Whether the spa reads a payload as a key press. -/
def Octets.pressesKey (payload : Octets) : Bool := (Payload.parse? payload).any Payload.isKeyPress

lemma Payload.pressesKey_compose {d : Payload} (h : d.isKeyPress = false) :
    Octets.pressesKey d.compose = false := by
  rw [Octets.pressesKey, any_parse?_compose fun _ => h, h]

namespace Effect

/-- Whether a payload of a command is handed to the link. -/
def isCommandFrame : Effect → Bool
  | send (.command _) _ _ => true
  | _ => false

/-- Whether a payload of a command that presses a key reaches the link. -/
def isKeyPress : Effect → Bool
  | send (.command _) (.authorized _ _ (.data payload)) none => Octets.pressesKey payload
  | _ => false

variable {x : Effect}

lemma isCommandFrame_of_isKeyPress (h : x.isKeyPress = true) : x.isCommandFrame = true := by
  unfold isKeyPress at h
  split at h
  · rfl
  · cases h

lemma isSome_ticket?_of_isCommandFrame (h : x.isCommandFrame = true) : x.ticket?.isSome = true := by
  unfold isCommandFrame at h
  split at h
  · rfl
  · cases h

end Effect

/-! ## Commands that are spaced -/

namespace TranslatedCommand

variable {delay : Nat} {c left : TranslatedCommand} {t t' : Translator}

/-- Whether the next payload has to wait after every key press of a command. -/
def IsSpaced (delay : Nat) (c : TranslatedCommand) : Prop :=
  match c.pending with
  | .single payload? => ∀ payload ∈ payload?, Octets.pressesKey payload = false
  | .presses _ _ => delay ≤ c.spacing

/-- What is left of such a command is so, too. -/
lemma IsSpaced.nextPayload (h : c.IsSpaced delay) {payload : Octets}
    (hnext : t.nextPayload c = (some payload, left, t')) :
    left.IsSpaced delay ∧ (Octets.pressesKey payload = true → delay ≤ left.spacing) := by
  obtain ⟨payload? | ⟨key, n⟩, spacing⟩ := c
  · simp only [Translator.nextPayload, Prod.mk.injEq] at hnext
    obtain ⟨rfl, rfl, -⟩ := hnext
    refine ⟨by simp [IsSpaced], fun hpress => ?_⟩
    rw [h payload rfl] at hpress
    cases hpress
  · simp only [Translator.nextPayload] at hnext
    split at hnext
    · cases hnext
    · simp only [Prod.mk.injEq] at hnext
      obtain ⟨-, rfl, -⟩ := hnext
      exact ⟨h, fun _ => h⟩

/-- Only key presses are rendered as such, and they are spaced. -/
lemma isSpaced_of_translate {command : Command} (h : t.translate command = .ok (c, t')) :
    c.IsSpaced t.settings.keyPressDelay := by
  obtain ⟨-, hrender⟩ := t.translate_eq_ok_iff.1 h
  cases command with
  | rawWrite | modeWrite =>
    obtain ⟨rfl, -⟩ := Prod.mk.inj hrender
    intro payload hpayload
    obtain rfl := Option.some.inj hpayload
    exact Payload.pressesKey_compose rfl
  | keyPress key count =>
    obtain ⟨rfl, -⟩ := Prod.mk.inj hrender
    exact le_rfl

end TranslatedCommand

/-! ## The pace -/

/-- A connection keeps pace with what was done, and when. -/
structure Pace (delay : Nat) (log : List (Nat × Effect)) (c : Connection) : Prop where
  /-- Every command payload kept its distance to every key press before it. -/
  apart : log.Pairwise fun x y => x.2.isKeyPress → y.2.isCommandFrame → x.1 + delay ≤ y.1
  /-- So will the next one. -/
  le_nextSend : ∀ x ∈ log, x.2.isKeyPress → x.1 + delay ≤ c.nextSend
  /-- So will those after it. -/
  isSpaced : ∀ r ∈ c.queue, r.command.IsSpaced delay

namespace Pace

variable {delay now : Nat} {log : List (Nat × Effect)} {c c' : Connection} {effects : List Effect}

/-- What sends no command payload keeps the pace. -/
lemma rest (h : Pace delay log c) (heffects : ∀ x ∈ effects, x.isCommandFrame = false)
    (hnext : c.nextSend ≤ c'.nextSend) (hqueue : ∀ r ∈ c'.queue, r.command.IsSpaced delay) :
    Pace delay (log ++ effects.map (now, ·)) c' := by
  have hquiet {x : Nat × Effect} (hx : x ∈ effects.map (now, ·)) : ¬ x.2.isCommandFrame := by
    obtain ⟨effect, heffect, rfl⟩ := List.mem_map.1 hx
    simp [heffects effect heffect]
  refine ⟨List.pairwise_append.2 ⟨h.apart, ?_, ?_⟩, fun x hx hpress => ?_, hqueue⟩
  · exact List.pairwise_of_forall_mem_list fun _ _ y hy _ hframe => absurd hframe (hquiet hy)
  · exact fun _ _ y hy _ hframe => absurd hframe (hquiet hy)
  · rcases List.mem_append.1 hx with hx | hx
    · exact (h.le_nextSend x hx hpress).trans hnext
    · exact absurd (Effect.isCommandFrame_of_isKeyPress hpress) (hquiet hx)

/-- A command payload that is due keeps it, if the next one waits after a key press. -/
lemma send (h : Pace delay log c) (hdue : c.nextSend ≤ now) {x : Effect}
    (hpress : x.isKeyPress → now + delay ≤ c'.nextSend) (hnext : c.nextSend ≤ c'.nextSend)
    (hqueue : ∀ r ∈ c'.queue, r.command.IsSpaced delay) : Pace delay (log ++ [(now, x)]) c' := by
  refine ⟨List.pairwise_append.2 ⟨h.apart, List.pairwise_singleton .., ?_⟩, fun y hy hpress' => ?_,
    hqueue⟩
  · intro y hy z hz hpress' _
    rw [List.mem_singleton.1 hz]
    exact (h.le_nextSend y hy hpress').trans hdue
  · rcases List.mem_append.1 hy with hy | hy
    · exact (h.le_nextSend y hy hpress').trans hnext
    · obtain rfl := List.mem_singleton.1 hy
      exact hpress hpress'

/-- Only what is done for requests counts. -/
lemma filter_iff : Pace delay (log.filter (·.2.ticket?.isSome)) c ↔ Pace delay log c := by
  have hpressed {x : Effect} (h : x.isKeyPress = true) : x.ticket?.isSome = true :=
    Effect.isSome_ticket?_of_isCommandFrame (Effect.isCommandFrame_of_isKeyPress h)
  constructor
  · rintro ⟨happart, hnext, hqueue⟩
    refine ⟨(List.pairwise_filter.1 happart).imp fun hxy hpress hframe => ?_,
      fun x hx hpress => hnext x (List.mem_filter.2 ⟨hx, hpressed hpress⟩) hpress, hqueue⟩
    exact hxy (hpressed hpress) (Effect.isSome_ticket?_of_isCommandFrame hframe) hpress hframe
  · rintro ⟨happart, hnext, hqueue⟩
    exact ⟨happart.sublist List.filter_sublist, fun x hx => hnext x (List.mem_of_mem_filter hx),
      hqueue⟩

end Pace

/-! ## Turns -/

namespace Turn

/-- A turn keeps pace, so far. -/
def KeepsPace (delay : Nat) (log : List (Nat × Effect)) (m : Moment) (t : Turn) : Prop :=
  Pace delay (log ++ t.effects.map (m.now, ·)) t.connection

namespace KeepsPace

variable {delay : Nat} {log : List (Nat × Effect)} {m : Moment} {t t' : Turn}

lemma begin {c : Connection} (h : Pace delay log c) :
    KeepsPace delay log m { connection := c } := by
  rw [KeepsPace, List.map_nil, List.append_nil]
  exact h

/-- What the turn does beside sending command payloads. -/
lemma rest (h : KeepsPace delay log m t) {effects : List Effect}
    (heffects : t'.effects = t.effects ++ effects)
    (hquiet : ∀ x ∈ effects, x.isCommandFrame = false)
    (hnext : t.connection.nextSend ≤ t'.connection.nextSend)
    (hqueue : ∀ r ∈ t'.connection.queue, r.command.IsSpaced delay) : KeepsPace delay log m t' := by
  rw [KeepsPace, heffects, List.map_append, ← List.append_assoc]
  exact Pace.rest h hquiet hnext hqueue

/-- A command payload that is due, and what follows it at once. -/
lemma send (h : KeepsPace delay log m t) (hdue : t.connection.nextSend ≤ m.now) {x : Effect}
    {effects : List Effect} (heffects : t'.effects = t.effects ++ x :: effects)
    (hpress : x.isKeyPress → m.now + delay ≤ t'.connection.nextSend)
    (hquiet : ∀ x ∈ effects, x.isCommandFrame = false)
    (hnext : t.connection.nextSend ≤ t'.connection.nextSend)
    (hqueue : ∀ r ∈ t'.connection.queue, r.command.IsSpaced delay) : KeepsPace delay log m t' := by
  rw [KeepsPace, heffects, List.append_cons, List.map_append, List.map_append, ← List.append_assoc,
    ← List.append_assoc]
  exact (Pace.send h hdue hpress hnext hqueue).rest hquiet le_rfl hqueue

/-- What does not concern the requests. -/
lemma of_commandView (h : KeepsPace delay log m t) (hview : t'.commandView = t.commandView)
    (hnext : t'.connection.nextSend = t.connection.nextSend) : KeepsPace delay log m t' := by
  obtain ⟨hqueue, -, hnotes⟩ := CommandView.mk.inj hview
  have hfilter (effects : List Effect) :
      (log ++ effects.map (m.now, ·)).filter (·.2.ticket?.isSome) =
        log.filter (·.2.ticket?.isSome) ++ (Effect.notes effects).map (m.now, ·) := by
    rw [List.filter_append, List.filter_map]
    rfl
  have hcounted := Pace.filter_iff.2 h
  rw [hfilter, ← hnotes, ← hfilter] at hcounted
  obtain ⟨happart, hle, hspaced⟩ := Pace.filter_iff.1 hcounted
  exact ⟨happart, by rwa [hnext], by rwa [hqueue]⟩

lemma failQueue (h : KeepsPace delay log m t) (fault : DeliveryFault) :
    KeepsPace delay log m (t.failQueue fault) :=
  h.rest (t.effects_failQueue fault) (by simp [Effect.isCommandFrame]) (by simp) (by simp)

/-- A request that joins the queue, or is answered at once. -/
lemma enqueue (h : KeepsPace delay log m t) {r : Request} (hr : r.command.IsSpaced delay) :
    KeepsPace delay log m (t.enqueue r) := by
  unfold Turn.enqueue
  dsimp only
  split
  · refine h.rest (List.append_nil _).symm (by simp) le_rfl fun x hx => ?_
    rcases List.mem_append.1 hx with hx | hx
    · exact h.isSpaced x hx
    · rwa [List.mem_singleton.1 hx]
  · exact h.rest rfl (by simp [Effect.isCommandFrame]) le_rfl h.isSpaced

/-- A payload at the front of the queue, which is due. -/
lemma flushFront (h : KeepsPace delay log m t) {front : Request} {rest : List Request}
    (hqueue : t.connection.queue = front :: rest) (hdue : t.connection.nextSend ≤ m.now) :
    KeepsPace delay log m (t.flushFront m front rest).turn := by
  have hspaced := h.isSpaced
  rw [hqueue, List.forall_mem_cons] at hspaced
  obtain ⟨hfront, hrest⟩ := hspaced
  rcases hnext : t.connection.translator.nextPayload front.command with ⟨payload?, left, translator⟩
  cases payload? with
  | none =>
    have hanswered : (t.flushFront m front rest).turn =
        ((t.update ({ · with translator })).update ({ · with queue := rest })).answer
          front.ticket none := by
      rw [Turn.flushFront, hnext]
      rfl
    rw [hanswered]
    exact h.rest rfl (by simp [Effect.isCommandFrame]) le_rfl hrest
  | some payload =>
    obtain ⟨hleft, hpress⟩ := hfront.nextPayload hnext
    obtain ⟨-, ⟨hqueue, heffects, hsame⟩ | ⟨package, fault, hqueue, heffects, hsame⟩ |
      ⟨source, destination, hqueue, heffects, hwait⟩⟩ := t.flushFront_spec m rest hnext
    · exact h.rest heffects (by simp [Effect.isCommandFrame]) hsame.ge (by simp [hqueue])
    · refine h.send hdue heffects (by simp [Effect.isKeyPress]) (by simp [Effect.isCommandFrame])
        hsame.ge ?_
      rwa [hqueue]
    · refine h.send hdue heffects (fun hkey => ?_) ?_ ?_ fun r hr => ?_
      · rw [hwait]
        exact Nat.add_le_add_left (hpress hkey) _
      · split <;> simp [Effect.isCommandFrame]
      · rw [hwait]
        exact hdue.trans (Nat.le_add_right _ _)
      · rw [hqueue] at hr
        split at hr
        · exact hrest r hr
        · rcases List.mem_cons.1 hr with rfl | hr
          · exact hleft
          · exact hrest r hr

lemma flushRounds (rounds : Nat) (h : KeepsPace delay log m t) :
    KeepsPace delay log m (Turn.flushRounds m rounds t) := by
  induction rounds generalizing t with
  | zero => exact h
  | succ rounds ih =>
    unfold Turn.flushRounds
    split
    · rename_i hdue
      split
      · exact h
      · rename_i front rest hqueue
        have hfront := h.flushFront hqueue hdue
        split
        · rename_i t' hmoved
          rw [hmoved] at hfront
          exact ih hfront
        · rename_i t' hfailed
          rwa [hfailed] at hfront
    · exact h

/-- **Working off the queue keeps the pace.** -/
theorem flushQueue (h : KeepsPace delay log m t) : KeepsPace delay log m (t.flushQueue m) :=
  h.flushRounds _

/-- Letting time pass in the session keeps it, as an expiry fails the queue. -/
lemma poll (h : KeepsPace delay log m t) :
    KeepsPace delay log m (t.applySession m (t.connection.session.poll m.freshKey m.now)) := by
  rcases t.connection.session.poll_spec m.freshKey m.now with
    ⟨hquiet, -⟩ | ⟨phase, outputs, hexpired, hquiet⟩
  · exact h.of_commandView (t.commandView_applySession m hquiet) (t.nextSend_applySession m _)
  · have hview := commandView_of_expired m t (t.connection.session.poll m.freshKey m.now).1 phase
      hquiet
    rw [← hexpired, Prod.mk.eta] at hview
    exact (h.failQueue .sessionExpired).of_commandView hview (by simp)

end KeepsPace

end Turn

namespace Connection

variable {delay : Nat} {log : List (Nat × Effect)} {c : Connection}

lemma nextSend_renewDownload (t : Turn) (m : Moment) :
    (renewDownload (retryDownload t m) m).connection.nextSend = t.connection.nextSend := by
  unfold renewDownload retryDownload
  repeat' split
  all_goals simp

/-- **Every reaction keeps the pace**, if the request that it may bring is spaced. -/
theorem keepsPace_react (h : Pace delay log c) (m : Moment) {input : Input}
    (hrequest : ∀ r ∈ input.request?, r.command.IsSpaced delay) :
    Turn.KeepsPace delay log m (c.react m input) := by
  have hbegin : Turn.KeepsPace delay log m { connection := c } := .begin h
  cases input with
  | package package =>
    refine hbegin.of_commandView (commandView_onPackage m package) ?_
    rw [react, onPackage]
    split
    · split <;> simp
    · simp
  | request r => exact (hbegin.enqueue (hrequest r rfl)).flushQueue
  | timer =>
    have hrenewed := hbegin.poll.of_commandView (renewDownload_spec _ m).1
      (nextSend_renewDownload _ m)
    exact hrenewed.flushQueue
  | close =>
    have hclosed : Turn.KeepsPace delay log m
        { connection := { c with session := c.session.close, download := none } } :=
      .begin ⟨h.apart, h.le_nextSend, h.isSpaced⟩
    have hfailed := hclosed.failQueue .shuttingDown
    exact hfailed.rest rfl (by simp [Effect.isCommandFrame]) le_rfl hfailed.isSpaced

end Connection

/-! ## Runs -/

namespace Host

/-- All that was done in a run, with the times. -/
def timeline (h : Host) (happenings : List Happening) : List (Nat × Effect) :=
  (h.history happenings).flatMap fun e => e.effects.map (e.happening.moment.now, ·)

lemma timeline_concat (h : Host) (happenings : List Happening) (happening : Happening) :
    h.timeline (happenings ++ [happening]) = h.timeline happenings ++
      (Entry.mk (h.run happenings) happening).effects.map (happening.moment.now, ·) := by
  rw [timeline, history_concat, List.flatMap_append, List.flatMap_singleton]
  rfl

/-- No request joins the queue beside the turn. -/
lemma Entry.queue_after_subset (e : Entry) :
    e.after.connection.queue ⊆ e.turn.connection.queue := by
  cases hinput : e.input? with
  | none =>
    obtain ⟨-, hqueue, -⟩ := e.after_of_input?_eq_none hinput
    rw [hqueue, turn, hinput]
    exact List.Subset.refl _
  | some input =>
    obtain ⟨-, mailbox, hafter⟩ := e.after_of_input? hinput
    have hadopted : ({ e.before with mailbox }.adopt e.turn).connection.queue ⊆
        e.turn.connection.queue := by
      rw [adopt_eq]
      split
      · exact List.nil_subset _
      · exact List.Subset.refl _
    rw [hafter]
    split <;> exact hadopted

section

variable {delay : Nat} {log : List (Nat × Effect)}

/-- A step of a run keeps the pace. -/
lemma Entry.pace_after {e : Entry} (h : Pace delay log e.before.connection)
    (hrequest : ∀ r ∈ e.received?, r.command.IsSpaced delay) :
    Pace delay (log ++ e.effects.map (e.happening.moment.now, ·)) e.after.connection := by
  have hturn : Turn.KeepsPace delay log e.happening.moment e.turn := by
    rw [received?] at hrequest
    cases hinput : e.input? with
    | none =>
      rw [turn, hinput]
      exact .begin h
    | some input =>
      rw [turn, hinput]
      rw [hinput, Option.bind_some] at hrequest
      exact Connection.keepsPace_react h _ hrequest
  obtain ⟨⟨queue, translator, hc⟩, answers, heffects, hanswers⟩ := e.spec
  rw [heffects, List.map_append, ← List.append_assoc]
  refine Pace.rest hturn (fun x hx => ?_) ?_ fun r hr => hturn.isSpaced r (e.queue_after_subset hr)
  · have hanswer := hanswers x hx
    cases x with
    | answer => rfl
    | send | feed => exact hanswer.elim
  · rw [hc]

end

/-- A request is spaced, as what a command was translated to. -/
lemma IsRequestOf.isSpaced {rules : Translator} {submitted : List Command} {r : Request}
    (h : IsRequestOf rules submitted r) : r.command.IsSpaced rules.settings.keyPressDelay := by
  obtain ⟨command, t, t', -, rfl, htranslate, -⟩ := h
  have hspaced : r.command.IsSpaced t.settings.keyPressDelay :=
    TranslatedCommand.isSpaced_of_translate htranslate
  exact hspaced

/-- **Every run keeps the pace.** -/
theorem Books.pace_run {rules : Translator} {notes : List Effect} {others : List Nat} {h : Host}
    (hbooks : Books rules [] [] notes others h) (happenings : List Happening) :
    Pace rules.settings.keyPressDelay (h.timeline happenings) (h.run happenings).connection := by
  induction happenings using List.reverseRecOn with
  | nil =>
    have hqueue : h.connection.queue = [] := by
      have htickets := hbooks.ledger.answeredTickets_append_queue
      exact List.map_eq_nil_iff.1 (List.append_eq_nil_iff.1 htickets).2
    exact ⟨.nil, by simp [timeline, history], by simp [hqueue]⟩
  | append_singleton happenings happening ih =>
    obtain ⟨notes', others', hpast⟩ := hbooks.run happenings
    rw [timeline_concat, run_append]
    refine Entry.pace_after (e := ⟨h.run happenings, happening⟩) ih fun r hr => ?_
    obtain ⟨-, place, -, hplace⟩ := Entry.received?_eq_some_iff.1 hr
    exact (hpast.isRequestOf r (List.mem_append_right _ (List.mem_of_getElem? hplace))).isSpaced

/-- **Keys are not pressed too fast.**  Take any run from a start, and any payload in it that
reached the link and pressed a key.  No later payload of a command is handed to the link before the
delay of the configuration has passed, whichever requests the two are of, whatever happens in
between, and whichever sends fail.  The clock may even go back. -/
theorem key_presses_paced (config : GatewayConfig) (size : UInt16) (key : Octets) (m : Moment) :
    ∃ h, startAt { config with memorySize := some size } key m = .ok h ∧
      ∀ happenings : List Happening, (h.timeline happenings).Pairwise fun x y =>
        x.2.isKeyPress → y.2.isCommandFrame → x.1 + config.commands.keyPressDelay ≤ y.1 := by
  obtain ⟨h, notes, hstart, hbegin⟩ := exists_books_startAt config size key m
  exact ⟨h, hstart, fun happenings => (hbegin.pace_run happenings).apart⟩

/-- A key is to be pressed twice.  The second press waits although the timer fires a moment before
its time. -/
theorem key_presses_paced_of_two :
    let happenings : List Happening := [answerHello, ⟨.submit (.keyPress 1 2), { now := 0 }⟩,
      ⟨.take 0, { now := 0 }⟩, ⟨.timer, { now := 249 }⟩, ⟨.timer, { now := 250 }⟩]
    ∃ h, startAt { memorySize := some 4 } [] { now := 0 } = .ok h ∧
      let presses := (h.timeline happenings).filter (·.2.isKeyPress)
      presses.map Prod.fst = [0, 250] ∧ presses.Pairwise fun x y => x.1 + 250 ≤ y.1 := by
  intro happenings
  obtain ⟨h, hstart, hpaced⟩ := key_presses_paced {} 4 [] { now := 0 }
  have hbegun : startAt { memorySize := some 4 } [] { now := 0 } = .ok (started 1800) := rfl
  obtain rfl := Except.ok.inj (hbegun.symm.trans hstart)
  refine ⟨_, hstart, by decide +kernel, List.pairwise_filter.2 ?_⟩
  exact (hpaced happenings).imp fun hxy hpress hpress' =>
    hxy hpress (Effect.isCommandFrame_of_isKeyPress hpress')

end Host

end SpaGateway
