import Mathlib.Tactic
import SpaGateway.Proofs.Relay.Hello

/-!
# Greeting the spa by the clock

A greeting is two loops, one inside the other.  The outer one sends a hello and opens a window that
closes after a fixed time, up to five times.  The inner one takes what the socket receives until the
window closes or the spa answers.  `Greeting.greet` is these loops with their times: whatever is no
answer leaves the time at which the window closes as it is, and the timer may be late to tell of it.

With the receptions cut at those times, this is the greeting that binds a relay
(`Greeting.takeWindows_windowsFrom`).  `Greeting.greets_first_hello` says what comes of it: the
first answer counts, if it comes in one of the five windows, and nothing else matters.
-/

namespace SpaGateway

namespace Greeting

/-! ## Receptions -/

/-- What the receiver of a socket hands over. -/
inductive SocketEvent where
  | datagram (sender : SocketAddress) (data : Octets)
  /-- Nothing could be received, and why. -/
  | fault (reason : String)
  deriving DecidableEq

/-- Something that the receiver of a socket hands over, and when. -/
structure Reception where
  time : Nat
  event : SocketEvent
  deriving DecidableEq

namespace Reception

/-- The hello that a reception answers with. -/
def answer? (spa : SocketAddress) (r : Reception) : Option Octets :=
  match r.event with
  | .datagram sender data => Greeting.answer? spa sender data
  | .fault _ => none

/-- Whether a reception is a hello of the spa. -/
def IsHello (spa : SocketAddress) (hello : Octets) (r : Reception) : Prop :=
  ∃ data, r.event = .datagram spa data ∧ Frame.decodeDatagram data = .ok (.hello hello)

/-- The spa answers with a hello, and nothing else answers. -/
lemma answer?_eq_some_iff {spa : SocketAddress} {r : Reception} {hello : Octets} :
    r.answer? spa = some hello ↔ r.IsHello spa hello := by
  obtain ⟨time, event⟩ := r
  cases event with
  | fault => simp [answer?, IsHello]
  | datagram sender data =>
    simp only [answer?, IsHello, SocketEvent.datagram.injEq]
    unfold Greeting.answer?
    by_cases hsender : sender = spa
    · rcases hdecode : Frame.decodeDatagram data with fault | package
      · simp [hdecode]
      · cases package <;> simp [hsender, hdecode]
    · simp [hsender]

/-- The datagram that was received. -/
def datagram? (r : Reception) : Option (SocketAddress × Octets) :=
  match r.event with
  | .datagram sender data => some (sender, data)
  | .fault _ => none

/-- Whether a reception falls strictly inside the window of an attempt. -/
def IsInside (opening : Nat → Nat) (attempt : Nat) (r : Reception) : Prop :=
  opening attempt < r.time ∧ r.time < opening attempt + window

end Reception

/-! ## The two loops -/

/-- What came of greeting the spa. -/
structure Greeted where
  /-- The hello of the spa. -/
  result : Except GatewayFault Octets
  /-- When the hellos were sent. -/
  hellos : List Nat

/-- Takes what is received before the deadline, until the spa answers.  The rest is left. -/
def attend (spa : SocketAddress) (deadline : Nat) :
    List Reception → Option Octets × List Reception
  | [] => (none, [])
  | r :: later =>
    if r.time < deadline then
      match r.answer? spa with
      | some hello => (some hello, later)
      | none => attend spa deadline later
    else (none, r :: later)

/-- Sends a hello and opens its window, up to so many times from an attempt on. -/
def greetFrom (spa : SocketAddress) (opening : Nat → Nat) :
    (rounds attempt : Nat) → List Reception → Greeted
  | 0, _, _ => { result := .error (.spaSilent spa.describe), hellos := [] }
  | rounds + 1, attempt, receptions =>
    match attend spa (opening attempt + window) receptions with
    | (some hello, _) => { result := .ok hello, hellos := [opening attempt] }
    | (none, left) =>
      let greeted := greetFrom spa opening rounds (attempt + 1) left
      { greeted with hellos := opening attempt :: greeted.hellos }

/-- When each attempt sends its hello, given how late the timer tells that a window has closed. -/
def opening (start : Nat) (late : Nat → Nat) : Nat → Nat
  | 0 => start
  | attempt + 1 => opening start late attempt + window + late attempt

/-- Greets the spa. -/
def greet (spa : SocketAddress) (start : Nat) (late : Nat → Nat) (receptions : List Reception) :
    Greeted :=
  greetFrom spa (opening start late) attempts 0 receptions

variable {spa : SocketAddress} {opens : Nat → Nat} {receptions : List Reception}

lemma opening_add_window_le (start : Nat) (late : Nat → Nat) {i j : Nat} (hij : i < j) :
    opening start late i + window ≤ opening start late j := by
  induction j, hij using Nat.le_induction with
  | base =>
    rw [opening]
    omega
  | succ j _ ih =>
    rw [opening]
    omega

/-- The windows do not meet: a reception falls into one at most. -/
lemma Reception.IsInside.unique {start : Nat} {late : Nat → Nat} {r : Reception} {i j : Nat}
    (hi : r.IsInside (Greeting.opening start late) i)
    (hj : r.IsInside (Greeting.opening start late) j) : i = j := by
  by_contra hne
  wlog hlt : i < j generalizing i j
  · exact this hj hi (Ne.symm hne) (by omega)
  have hapart := opening_add_window_le start late hlt
  exact lt_irrefl _ (hi.2.trans_le (hapart.trans hj.1.le))

/-! ## What is no answer -/

/-- Whether the spa answers. -/
def Reception.isAnswer (spa : SocketAddress) (r : Reception) : Bool := (r.answer? spa).isSome

lemma attend_of_le {deadline : Nat} (h : ∀ r ∈ receptions, deadline ≤ r.time) :
    attend spa deadline receptions = (none, receptions) := by
  cases receptions with
  | nil => rfl
  | cons r later => exact if_neg (h r List.mem_cons_self).not_gt

/-- Leaving out what is no answer, an attempt finds the same. -/
lemma attend_filter (hsorted : receptions.Pairwise (·.time ≤ ·.time)) (deadline : Nat) :
    attend spa deadline (receptions.filter (·.isAnswer spa)) =
      ((attend spa deadline receptions).1,
        (attend spa deadline receptions).2.filter (·.isAnswer spa)) := by
  induction receptions with
  | nil => rfl
  | cons r later ih =>
    obtain ⟨hlater, hsorted⟩ := List.pairwise_cons.1 hsorted
    by_cases htime : r.time < deadline
    · cases hanswer : r.answer? spa with
      | some hello =>
        have hkept : r.isAnswer spa = true := by rw [Reception.isAnswer, hanswer]; rfl
        simp [attend, htime, hanswer, hkept]
      | none =>
        have hdropped : r.isAnswer spa = false := by rw [Reception.isAnswer, hanswer]; rfl
        simp [attend, htime, hanswer, hdropped, ih hsorted]
    · have hnone : attend spa deadline (r :: later) = (none, r :: later) := if_neg htime
      rw [hnone]
      refine attend_of_le fun q hq => ?_
      rcases List.mem_cons.1 (List.mem_of_mem_filter hq) with rfl | hq
      · exact not_lt.1 htime
      · exact (not_lt.1 htime).trans (hlater q hq)

lemma attend_suffix (deadline : Nat) (receptions : List Reception) :
    (attend spa deadline receptions).2 <:+ receptions := by
  induction receptions with
  | nil => exact List.suffix_rfl
  | cons r later ih =>
    rw [attend]
    split
    · split
      · exact List.suffix_cons r later
      · exact ih.trans (List.suffix_cons r later)
    · exact List.suffix_rfl

lemma greetFrom_filter (hsorted : receptions.Pairwise (·.time ≤ ·.time)) (rounds attempt : Nat) :
    greetFrom spa opens rounds attempt (receptions.filter (·.isAnswer spa)) =
      greetFrom spa opens rounds attempt receptions := by
  induction rounds generalizing attempt receptions with
  | zero => rfl
  | succ rounds ih =>
    have hleft := hsorted.sublist (@attend_suffix spa (opens attempt + window) receptions).sublist
    simp only [greetFrom, attend_filter hsorted]
    generalize attend spa (opens attempt + window) receptions = attended at hleft ⊢
    rcases attended with ⟨_ | hello, left⟩
    · simp only [ih hleft (attempt + 1)]
    · rfl

/-- **What is no answer never ends or prolongs a window**: without it, the result is the same, and
the hellos are sent at the same times. -/
lemma greet_filter (hsorted : receptions.Pairwise (·.time ≤ ·.time)) (spa : SocketAddress)
    (start : Nat) (late : Nat → Nat) :
    greet spa start late (receptions.filter (·.isAnswer spa)) = greet spa start late receptions :=
  greetFrom_filter hsorted attempts 0

/-! ## The first answer -/

lemma greetFrom_nil (rounds attempt : Nat) :
    greetFrom spa opens rounds attempt [] =
      { result := .error (.spaSilent spa.describe)
        hellos := (List.range' attempt rounds).map opens } := by
  induction rounds generalizing attempt with
  | zero => rfl
  | succ rounds ih =>
    rw [greetFrom, attend]
    simp only [ih]
    rfl

/-- The windows of the attempts before that of an answer pass by. -/
lemma greetFrom_cons {start : Nat} {late : Nat → Nat} {r : Reception} {hello : Octets}
    (hanswer : r.answer? spa = some hello) {found : Nat}
    (hinside : r.IsInside (opening start late) found) (later : List Reception)
    (rounds : Nat) {attempt : Nat} (hle : attempt ≤ found) :
    greetFrom spa (opening start late) rounds attempt (r :: later) =
      if found < attempt + rounds then
        { result := .ok hello
          hellos := (List.range' attempt (found + 1 - attempt)).map (opening start late) }
      else
        { result := .error (.spaSilent spa.describe)
          hellos := (List.range' attempt rounds).map (opening start late) } := by
  induction rounds generalizing attempt with
  | zero =>
    rw [if_neg (by omega)]
    rfl
  | succ rounds ih =>
    rcases hle.eq_or_lt with rfl | hlt
    · -- the window of the answer
      have hattend : attend spa (opening start late attempt + window) (r :: later) =
          (some hello, later) := by
        rw [attend, if_pos hinside.2, hanswer]
      have hone : attempt + 1 - attempt = 1 := by omega
      rw [greetFrom, hattend, if_pos (by omega), hone]
      rfl
    · have hattend : attend spa (opening start late attempt + window) (r :: later) =
          (none, r :: later) :=
        if_neg (((opening_add_window_le start late hlt).trans hinside.1.le).not_gt)
      rw [greetFrom, hattend]
      simp only [ih hlt]
      have hcount : found + 1 - attempt = found + 1 - (attempt + 1) + 1 := by omega
      have hbound : attempt + 1 + rounds = attempt + (rounds + 1) := by omega
      rw [hcount, hbound]
      split <;> rfl

lemma filter_isAnswer_eq_nil_iff :
    receptions.filter (·.isAnswer spa) = [] ↔ ∀ r ∈ receptions, r.answer? spa = none := by
  simp [List.filter_eq_nil_iff, Reception.isAnswer]

/-- The first hello of the spa, and the attempt in whose window it falls. -/
def IsFirstHello (spa : SocketAddress) (opening : Nat → Nat) (receptions : List Reception)
    (attempt : Nat) (hello : Octets) : Prop :=
  ∃ earlier r later, receptions = earlier ++ r :: later ∧
    (∀ q ∈ earlier, ∀ other, ¬ q.IsHello spa other) ∧ r.IsHello spa hello ∧
    r.IsInside opening attempt

lemma isFirstHello_iff {attempt : Nat} {hello : Octets} :
    IsFirstHello spa opens receptions attempt hello ↔
      ∃ r later, receptions.filter (·.isAnswer spa) = r :: later ∧ r.answer? spa = some hello ∧
        r.IsInside opens attempt := by
  simp only [IsFirstHello, ← Reception.answer?_eq_some_iff, ← ne_eq,
    ← Option.eq_none_iff_forall_ne_some]
  constructor
  · rintro ⟨earlier, r, later, rfl, hearlier, hsome, hinside⟩
    have hanswer : r.isAnswer spa = true := by
      rw [Reception.isAnswer, hsome]
      rfl
    refine ⟨r, later.filter (·.isAnswer spa), ?_, hsome, hinside⟩
    rw [List.filter_append, filter_isAnswer_eq_nil_iff.2 hearlier, List.nil_append,
      List.filter_cons_of_pos hanswer]
  · rintro ⟨r, rest, hfilter, hsome, hinside⟩
    obtain ⟨earlier, later, rfl, hearlier, -, -⟩ := List.filter_eq_cons_iff.1 hfilter
    exact ⟨earlier, r, later, rfl, by simpa [Reception.isAnswer] using hearlier, hsome, hinside⟩

section

variable {start : Nat} {late : Nat → Nat}

lemma IsFirstHello.greet_eq {found : Nat} {hello : Octets}
    (h : IsFirstHello spa (opening start late) receptions found hello)
    (hsorted : receptions.Pairwise (·.time ≤ ·.time)) :
    greet spa start late receptions =
      if found < attempts then
        { result := .ok hello, hellos := (List.range (found + 1)).map (opening start late) }
      else
        { result := .error (.spaSilent spa.describe)
          hellos := (List.range attempts).map (opening start late) } := by
  obtain ⟨r, later, hfilter, hanswer, hinside⟩ := isFirstHello_iff.1 h
  rw [← greet_filter hsorted, hfilter, greet,
    greetFrom_cons hanswer hinside later attempts (Nat.zero_le found), Nat.zero_add, Nat.sub_zero,
    ← List.range_eq_range', ← List.range_eq_range']

/-- There is one first hello at most. -/
lemma IsFirstHello.unique {attempt attempt' : Nat} {hello hello' : Octets}
    (h : IsFirstHello spa (opening start late) receptions attempt hello)
    (h' : IsFirstHello spa (opening start late) receptions attempt' hello') :
    attempt = attempt' ∧ hello = hello' := by
  obtain ⟨r, later, hfilter, hanswer, hinside⟩ := isFirstHello_iff.1 h
  obtain ⟨r', later', hfilter', hanswer', hinside'⟩ := isFirstHello_iff.1 h'
  obtain ⟨rfl, -⟩ := List.cons.inj (hfilter.symm.trans hfilter')
  exact ⟨hinside.unique hinside', Option.some.inj (hanswer.symm.trans hanswer')⟩

lemma greet_of_no_answer (hnone : ∀ r ∈ receptions, r.answer? spa = none)
    (hsorted : receptions.Pairwise (·.time ≤ ·.time)) :
    greet spa start late receptions =
      { result := .error (.spaSilent spa.describe)
        hellos := (List.range attempts).map (opening start late) } := by
  rw [← greet_filter hsorted, filter_isAnswer_eq_nil_iff.2 hnone, greet, greetFrom_nil,
    ← List.range_eq_range']

/-- Receptions come in their order, each strictly inside the window of an attempt. -/
structure IsTimely (opening : Nat → Nat) (receptions : List Reception) : Prop where
  sorted : receptions.Pairwise (·.time ≤ ·.time)
  inside : ∀ r ∈ receptions, ∃ attempt, r.IsInside opening attempt

/-- **What comes of a greeting**: the first hello, if it falls into a window, and silence if not. -/
lemma IsTimely.greet_cases (h : IsTimely (opening start late) receptions) (spa : SocketAddress) :
    (∃ attempt < attempts, ∃ hello,
        IsFirstHello spa (opening start late) receptions attempt hello ∧
          greet spa start late receptions =
            { result := .ok hello
              hellos := (List.range (attempt + 1)).map (opening start late) }) ∨
      (∀ attempt < attempts, ∀ hello,
          ¬ IsFirstHello spa (opening start late) receptions attempt hello) ∧
        greet spa start late receptions =
          { result := .error (.spaSilent spa.describe)
            hellos := (List.range attempts).map (opening start late) } := by
  cases hfilter : receptions.filter (·.isAnswer spa) with
  | nil =>
    refine .inr ⟨fun attempt _ hello hfirst => ?_,
      greet_of_no_answer (filter_isAnswer_eq_nil_iff.1 hfilter) h.sorted⟩
    obtain ⟨r, later, hsome, -⟩ := isFirstHello_iff.1 hfirst
    cases hfilter.symm.trans hsome
  | cons r later =>
    have hmem : r ∈ receptions.filter (·.isAnswer spa) := hfilter ▸ List.mem_cons_self
    obtain ⟨hreceived, hanswer⟩ := List.mem_filter.1 hmem
    obtain ⟨hello, hanswer⟩ := Option.isSome_iff_exists.1 hanswer
    obtain ⟨found, hinside⟩ := h.inside r hreceived
    have hfirst := isFirstHello_iff.2 ⟨r, later, hfilter, hanswer, hinside⟩
    have hgreeted := hfirst.greet_eq h.sorted
    by_cases hfound : found < attempts
    · rw [if_pos hfound] at hgreeted
      exact .inl ⟨found, hfound, hello, hfirst, hgreeted⟩
    · rw [if_neg hfound] at hgreeted
      refine .inr ⟨fun attempt hattempt other hother => hfound ?_, hgreeted⟩
      rwa [(hfirst.unique hother).1]

end

/-! ## The greeting that binds a relay -/

/-- The datagrams that are received in each window. -/
def windowsFrom (opening : Nat → Nat) :
    (rounds attempt : Nat) → List Reception → List (List (SocketAddress × Octets))
  | 0, _, _ => []
  | rounds + 1, attempt, receptions =>
    (receptions.takeWhile (·.time < opening attempt + window)).filterMap Reception.datagram? ::
      windowsFrom opening rounds (attempt + 1)
        (receptions.dropWhile (·.time < opening attempt + window))

/-- How far a greeting got that began with an attempt. -/
def Greeted.greeting (greeted : Greeted) (attempt : Nat) : Greeting :=
  match greeted.result with
  | .ok hello => answered (attempt + greeted.hellos.length) hello
  | .error _ => unanswered

/-- An attempt takes the datagrams of its window. -/
lemma takeWindow_takeWhile (attempt deadline : Nat) (receptions : List Reception) :
    ((waiting attempt).takeWindow spa
        ((receptions.takeWhile (·.time < deadline)).filterMap Reception.datagram?)).1 =
      match attend spa deadline receptions with
      | (some hello, _) => answered attempt hello
      | (none, _) => waiting attempt := by
  induction receptions with
  | nil => rfl
  | cons r later ih =>
    by_cases htime : r.time < deadline
    · obtain ⟨time, event⟩ := r
      cases event with
      | fault reason =>
        simpa [attend, htime, Reception.answer?, Reception.datagram?, List.filterMap_cons] using ih
      | datagram sender data =>
        cases hanswer : Greeting.answer? spa sender data with
        | some hello =>
          simp [attend, htime, Reception.answer?, Reception.datagram?, takeWindow, step, hanswer]
        | none =>
          simpa [attend, htime, Reception.answer?, Reception.datagram?, takeWindow, step, hanswer]
            using ih
    · simp [attend, htime, takeWindow]

lemma attend_of_none {deadline : Nat} {left : List Reception}
    (h : attend spa deadline receptions = (none, left)) :
    left = receptions.dropWhile (·.time < deadline) := by
  induction receptions with
  | nil => exact (Prod.mk.inj h).2.symm
  | cons r later ih =>
    by_cases htime : r.time < deadline
    · rw [attend, if_pos htime] at h
      cases hanswer : r.answer? spa with
      | some hello => simp [hanswer] at h
      | none =>
        rw [hanswer] at h
        simpa [htime] using ih h
    · rw [attend, if_neg htime] at h
      simpa [htime] using (Prod.mk.inj h).2.symm

/-- A window with an answer is the last one, and one without ends. -/
lemma takeWindows_takeWhile (attempt deadline : Nat) (receptions : List Reception)
    (windows : List (List (SocketAddress × Octets))) :
    ((waiting attempt).takeWindows spa
        ((receptions.takeWhile (·.time < deadline)).filterMap Reception.datagram? :: windows)).1 =
      match attend spa deadline receptions with
      | (some hello, _) => answered attempt hello
      | (none, _) => (((waiting attempt).step spa .windowEnd).takeWindows spa windows).1 := by
  have hwindow := @takeWindow_takeWhile spa attempt deadline receptions
  rw [takeWindows]
  generalize takeWindow spa (waiting attempt)
    ((receptions.takeWhile (·.time < deadline)).filterMap Reception.datagram?) = taken at hwindow ⊢
  generalize attend spa deadline receptions = attended at hwindow ⊢
  obtain ⟨reached, rest⟩ := taken
  dsimp only at hwindow
  subst hwindow
  rcases attended with ⟨_ | hello, left⟩ <;> rfl

/-- **The loops are the greeting that binds a relay.**  They get as far as it does. -/
lemma takeWindows_windowsFrom (opens : Nat → Nat) {rounds attempt : Nat}
    (hcount : attempt + rounds + 1 = attempts) (receptions : List Reception) :
    ((waiting (attempt + 1)).takeWindows spa
        (windowsFrom opens (rounds + 1) attempt receptions)).1 =
      (greetFrom spa opens (rounds + 1) attempt receptions).greeting attempt := by
  induction rounds generalizing attempt receptions with
  | zero =>
    have hlast : (waiting (attempt + 1)).step spa .windowEnd = unanswered := if_neg (by omega)
    rw [windowsFrom, takeWindows_takeWhile, hlast, greetFrom]
    rcases attend spa (opens attempt + window) receptions with ⟨_ | hello, left⟩ <;> rfl
  | succ rounds ih =>
    have hnext : (waiting (attempt + 1)).step spa .windowEnd = waiting (attempt + 1 + 1) :=
      if_pos (by omega)
    rw [windowsFrom, takeWindows_takeWhile, hnext, greetFrom]
    rcases hattend : attend spa (opens attempt + window) receptions with ⟨_ | hello, left⟩
    · obtain rfl := attend_of_none hattend
      dsimp only
      rw [ih (by omega)]
      simp only [Greeted.greeting, List.length_cons, Nat.add_assoc, Nat.add_comm 1]
    · rfl

end Greeting

/-- What binding a relay comes to, by what came of the greeting. -/
lemma Binding.ofArrivals_windowsFrom (spa : SocketAddress) (opens : Nat → Nat)
    (receptions : List Greeting.Reception) :
    let greeted := Greeting.greetFrom spa opens Greeting.attempts 0 receptions
    let binding := ofArrivals {} spa (Greeting.windowsFrom opens Greeting.attempts 0 receptions)
    match greeted.result with
    | .ok hello =>
      (helloDelimiter ∈ hello → ∃ waiting, binding = bound greeted.hellos.length hello waiting) ∧
        (helloDelimiter ∉ hello → binding = failed greeted.hellos.length (.invalidHello hello))
    | .error _ => binding = failed Greeting.attempts (.spaSilent spa.describe) := by
  intro greeted binding
  have hgreeting : (Greeting.begin.takeWindows spa
      (Greeting.windowsFrom opens Greeting.attempts 0 receptions)).1 = greeted.greeting 0 :=
    Greeting.takeWindows_windowsFrom opens (Nat.zero_add Greeting.attempts) receptions
  simp only [binding, ofArrivals, Network.linkFault, Option.map_none]
  generalize Greeting.begin.takeWindows spa
    (Greeting.windowsFrom opens Greeting.attempts 0 receptions) = taken at hgreeting ⊢
  obtain ⟨reached, waiting⟩ := taken
  obtain rfl : reached = greeted.greeting 0 := hgreeting
  rw [Greeting.Greeted.greeting]
  cases greeted.result with
  | error fault => rfl
  | ok hello =>
    have hnamed : (splitHello? hello).isSome = true ↔ helloDelimiter ∈ hello := by
      rw [Option.isSome_iff_ne_none, ne_eq, splitHello?_eq_none_iff, not_not]
    dsimp only
    rw [Greeting.outcome?, Greeting.sent, Nat.zero_add]
    by_cases hdelimiter : helloDelimiter ∈ hello
    · rw [if_pos (hnamed.2 hdelimiter)]
      exact ⟨fun _ => ⟨waiting, rfl⟩, fun hnot => absurd hdelimiter hnot⟩
    · rw [if_neg (mt hnamed.1 hdelimiter)]
      exact ⟨fun hdelimiter' => absurd hdelimiter' hdelimiter, fun _ => rfl⟩

namespace Greeting

/-- **The greeting finds the first hello of the spa, and is bounded.**  Whatever is received, and by
whomever it was sent, as long as it comes in order and strictly inside the windows: the greeting
yields a hello exactly if that is the first one from the spa and falls into one of the windows, and
then a hello was sent for that window and one for each before; otherwise the spa counts as silent
after all attempts.  What is no answer makes no difference to the result or to the times of the
hellos.  A relay is then bound exactly if the hello names the spa. -/
theorem greets_first_hello (spa : SocketAddress) (start : Nat) (late : Nat → Nat)
    (receptions : List Reception) (h : IsTimely (opening start late) receptions) :
    let opening := opening start late
    let greeted := greet spa start late receptions
    let binding := Binding.ofArrivals {} spa (windowsFrom opening attempts 0 receptions)
    (∀ hello, greeted.result = .ok hello ↔
        ∃ attempt < attempts, IsFirstHello spa opening receptions attempt hello) ∧
      (∀ attempt < attempts, ∀ hello, IsFirstHello spa opening receptions attempt hello →
        greeted.hellos = (List.range (attempt + 1)).map opening) ∧
      ((∀ hello, greeted.result ≠ .ok hello) →
        greeted.result = .error (.spaSilent spa.describe) ∧
          greeted.hellos = (List.range attempts).map opening ∧
          binding = .failed attempts (.spaSilent spa.describe)) ∧
      greet spa start late (receptions.filter (·.isAnswer spa)) = greeted ∧
      ∀ hello, greeted.result = .ok hello →
        (helloDelimiter ∈ hello →
          ∃ waiting, binding = .bound greeted.hellos.length hello waiting) ∧
        (helloDelimiter ∉ hello →
          binding = .failed greeted.hellos.length (.invalidHello hello)) := by
  intro opening greeted binding
  have hbinding : match greeted.result with
      | .ok hello =>
        (helloDelimiter ∈ hello →
          ∃ waiting, binding = .bound greeted.hellos.length hello waiting) ∧
        (helloDelimiter ∉ hello → binding = .failed greeted.hellos.length (.invalidHello hello))
      | .error _ => binding = .failed attempts (.spaSilent spa.describe) :=
    Binding.ofArrivals_windowsFrom spa opening receptions
  have hundisturbed := greet_filter h.sorted spa start late
  obtain ⟨found, hfound, heard, hfirst, hgreeted⟩ | ⟨hnone, hgreeted⟩ := h.greet_cases spa
  all_goals
    change greeted = _ at hgreeted
    rw [hgreeted] at hbinding ⊢
  · refine ⟨fun hello => ⟨?_, ?_⟩, ?_, fun hnot => absurd rfl (hnot heard), ?_, ?_⟩
    · intro hresult
      obtain rfl := Except.ok.inj hresult
      exact ⟨found, hfound, hfirst⟩
    · rintro ⟨attempt, -, hhello⟩
      rw [(hfirst.unique hhello).2]
    · intro attempt _ hello hhello
      rw [(hfirst.unique hhello).1]
    · rw [hundisturbed, ← hgreeted]
    · intro hello hresult
      obtain rfl := Except.ok.inj hresult
      exact hbinding
  · refine ⟨fun hello => ⟨nofun, ?_⟩, ?_, fun _ => ⟨rfl, rfl, hbinding⟩, ?_, nofun⟩
    · rintro ⟨attempt, hattempt, hhello⟩
      exact absurd hhello (hnone attempt hattempt hello)
    · intro attempt hattempt hello hhello
      exact absurd hhello (hnone attempt hattempt hello)
    · rw [hundisturbed, ← hgreeted]

/-- The spa is greeted twice, since its hello comes after the first window has closed.  A hello of a
stranger, a fault of the socket and half a frame of the spa do not count. -/
theorem greets_first_hello_of_second_window :
    let spa : SocketAddress := .v4 ⟨10, 0, 0, 1⟩ 10022
    let stranger : SocketAddress := .v4 ⟨10, 0, 0, 2⟩ 10022
    let answer := Frame.encode (.hello [0x53, helloDelimiter, 0x50])
    let receptions : List Reception := [⟨10, .datagram stranger answer⟩, ⟨20, .fault "refused"⟩,
      ⟨500, .datagram spa (answer.take 9)⟩, ⟨1500, .datagram spa answer⟩]
    let opening := opening 0 fun _ => 3
    let greeted := greet spa 0 (fun _ => 3) receptions
    IsTimely opening receptions ∧ greeted.result = .ok [0x53, helloDelimiter, 0x50] ∧
      greeted.hellos = [0, 1003] ∧
      ∃ waiting, Binding.ofArrivals {} spa (windowsFrom opening attempts 0 receptions) =
        .bound 2 [0x53, helloDelimiter, 0x50] waiting := by
  intro spa stranger answer receptions opening greeted
  have htimely : IsTimely opening receptions := by
    refine ⟨by simp [receptions], ?_⟩
    simp only [receptions, List.forall_mem_cons, Reception.IsInside]
    exact ⟨⟨0, by decide⟩, ⟨0, by decide⟩, ⟨0, by decide⟩, ⟨1, by decide⟩, by simp⟩
  have hfirst : IsFirstHello spa opening receptions 1 [0x53, helloDelimiter, 0x50] :=
    isFirstHello_iff.2 ⟨_, _, rfl, rfl, by decide, by decide⟩
  obtain ⟨hiff, hhellos, -, -, hbound⟩ := greets_first_hello spa 0 (fun _ => 3) receptions htimely
  have hresult := (hiff _).2 ⟨1, by decide, hfirst⟩
  have htwo : greeted.hellos = [0, 1003] := hhellos 1 (by decide) _ hfirst
  obtain ⟨waiting, hwaiting⟩ := (hbound _ hresult).1 (by decide)
  exact ⟨htimely, hresult, htwo, waiting, by rw [hwaiting, htwo]; rfl⟩

end Greeting

end SpaGateway
