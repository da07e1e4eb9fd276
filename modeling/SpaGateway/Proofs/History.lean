import Mathlib.Tactic

/-!
# Histories

A system that does one thing after another leaves a history: the steps of its run, each with the
state before it.  What holds at the end of a run is often decided by the last step that had a say in
it, and `holds_foldl_iff` says so once for every system: a fact that some steps establish and some
destroy holds at the end exactly if a step established it and no later one destroyed it.
-/

namespace SpaGateway

variable {σ α : Type}

/-- One step of a run: the state before it and what was done. -/
structure Step (σ α : Type) where
  before : σ
  action : α

/-- The steps of a run. -/
def steps (act : σ → α → σ) (s : σ) : List α → List (Step σ α)
  | [] => []
  | a :: actions => ⟨s, a⟩ :: steps act (act s a) actions

variable {act : σ → α → σ}

lemma steps_concat (s : σ) (actions : List α) (a : α) :
    steps act s (actions ++ [a]) = steps act s actions ++ [⟨actions.foldl act s, a⟩] := by
  induction actions generalizing s with
  | nil => rfl
  | cons b actions ih =>
    rw [List.cons_append, steps, ih, steps, List.cons_append, List.foldl_cons]

lemma steps_append (s : σ) (earlier later : List α) :
    steps act s (earlier ++ later) =
      steps act s earlier ++ steps act (earlier.foldl act s) later := by
  induction earlier generalizing s with
  | nil => rfl
  | cons a earlier ih => rw [List.cons_append, steps, ih, steps, List.cons_append, List.foldl_cons]

lemma action_mem_of_mem_steps {s : σ} {actions : List α} {e : Step σ α}
    (he : e ∈ steps act s actions) : e.action ∈ actions := by
  induction actions generalizing s with
  | nil => cases he
  | cons a actions ih =>
    rcases List.mem_cons.1 he with rfl | he
    · exact List.mem_cons_self
    · exact List.mem_cons_of_mem a (ih he)

/-- A step of a run comes after the actions before it. -/
lemma exists_of_mem_steps {s : σ} {actions : List α} {e : Step σ α} (he : e ∈ steps act s actions) :
    ∃ past rest, actions = past ++ e.action :: rest ∧ e.before = past.foldl act s := by
  induction actions generalizing s with
  | nil => cases he
  | cons a actions ih =>
    rcases List.mem_cons.1 he with rfl | he
    · exact ⟨[], actions, rfl, rfl⟩
    · obtain ⟨past, rest, rfl, hbefore⟩ := ih he
      exact ⟨a :: past, rest, rfl, hbefore⟩

/-- What every action keeps holds at the end of a run. -/
lemma keeps_foldl {P : σ → Prop} (hkeeps : ∀ s a, P s → P (act s a)) {s : σ} (hs : P s)
    (actions : List α) : P (actions.foldl act s) := by
  induction actions generalizing s with
  | nil => exact hs
  | cons a actions ih => exact ih (hkeeps s a hs)

/-- What every action keeps holds before every step of a run. -/
lemma before_of_mem_steps {P : σ → Prop} (hkeeps : ∀ s a, P s → P (act s a)) {s : σ} (hs : P s)
    {actions : List α} {e : Step σ α} (he : e ∈ steps act s actions) : P e.before := by
  induction actions generalizing s with
  | nil => cases he
  | cons a actions ih =>
    rcases List.mem_cons.1 he with rfl | he
    · exact hs
    · exact ih (hkeeps s a hs) he

/-- What every step of a run keeps holds throughout. -/
lemma keeps_of_mem_steps {P : σ → Prop} {s : σ} (hs : P s) {actions : List α}
    (hkeeps : ∀ e ∈ steps act s actions, P e.before → P (act e.before e.action)) :
    P (actions.foldl act s) ∧ ∀ e ∈ steps act s actions, P e.before := by
  induction actions generalizing s with
  | nil => exact ⟨hs, by simp [steps]⟩
  | cons a actions ih =>
    obtain ⟨hfirst, hrest⟩ := List.forall_mem_cons.1 hkeeps
    obtain ⟨hend, hbefore⟩ := ih (hfirst hs) hrest
    exact ⟨hend, List.forall_mem_cons.2 ⟨hs, hbefore⟩⟩

/-- A fact that steps can destroy only holds at the end of a run exactly if none did. -/
lemma keeps_foldl_iff {P : σ → Prop} {breaks : Step σ α → Prop} {s : σ} (hs : P s)
    {actions : List α} (hstep : ∀ e ∈ steps act s actions,
      (P (act e.before e.action) ↔ P e.before ∧ ¬ breaks e)) :
    P (actions.foldl act s) ↔ ∀ e ∈ steps act s actions, ¬ breaks e := by
  induction actions using List.reverseRecOn with
  | nil => simpa [steps] using hs
  | append_singleton actions a ih =>
    rw [steps_concat] at hstep ⊢
    rw [List.forall_mem_append, List.forall_mem_singleton] at hstep ⊢
    rw [List.foldl_append, ← ih hstep.1]
    exact hstep.2

/-! ## Times -/

/-- The time of the last step of a kind. -/
def lastTime? (time : α → Nat) (kind : Step σ α → Bool) (history : List (Step σ α)) : Option Nat :=
  (history.filter kind).getLast?.map fun step => time step.action

lemma lastTime?_concat (time : α → Nat) (kind : Step σ α → Bool) (history : List (Step σ α))
    (step : Step σ α) : lastTime? time kind (history ++ [step]) =
      if kind step then some (time step.action) else lastTime? time kind history := by
  cases hkind : kind step <;> simp [lastTime?, hkind]

lemma exists_of_lastTime?_eq_some {time : α → Nat} {kind : Step σ α → Bool}
    {history : List (Step σ α)} {last : Nat} (h : lastTime? time kind history = some last) :
    ∃ step ∈ history, time step.action = last := by
  obtain ⟨step, hlast, htime⟩ := Option.map_eq_some_iff.1 h
  exact ⟨step, List.mem_of_mem_filter (List.mem_of_getLast? hlast), htime⟩

/-! ## The last word -/

/-- **The last word.**  If each step leads to a fact exactly when it establishes it, or when the
fact held before and the step does not destroy it, then the fact holds at the end of a run exactly
if a step of the run established it and none after that destroyed it. -/
theorem holds_foldl_iff {P : σ → Prop} {makes breaks : Step σ α → Prop} {s : σ} (hs : ¬ P s)
    {actions : List α} (hstep : ∀ e ∈ steps act s actions,
      (P (act e.before e.action) ↔ makes e ∨ P e.before ∧ ¬ breaks e)) :
    P (actions.foldl act s) ↔ ∃ earlier maker later,
      steps act s actions = earlier ++ maker :: later ∧ makes maker ∧
        ∀ e ∈ later, ¬ breaks e := by
  induction actions using List.reverseRecOn with
  | nil => simp [steps, hs]
  | append_singleton actions a ih =>
    rw [steps_concat] at hstep ⊢
    set last : Step σ α := ⟨actions.foldl act s, a⟩ with hlast
    have hend : P ((actions ++ [a]).foldl act s) ↔
        makes last ∨ P (actions.foldl act s) ∧ ¬ breaks last := by
      rw [List.foldl_append]
      exact hstep last (List.mem_append_right _ (List.mem_singleton_self _))
    have ih := ih fun e he => hstep e (List.mem_append_left _ he)
    rw [hend]
    constructor
    · rintro (hmakes | ⟨hbefore, hlast⟩)
      · exact ⟨_, last, [], rfl, hmakes, by simp⟩
      · obtain ⟨earlier, maker, later, hsplit, hmakes, hnone⟩ := ih.1 hbefore
        refine ⟨earlier, maker, later ++ [last], by simp [hsplit], hmakes, ?_⟩
        intro e he
        rcases List.mem_append.1 he with he | he
        · exact hnone e he
        · rwa [List.mem_singleton.1 he]
    · rintro ⟨earlier, maker, later, hsplit, hmakes, hnone⟩
      -- the run ends with the step that established the fact, or with a later one
      induction later using List.reverseRecOn with
      | nil =>
        obtain ⟨-, heq⟩ := List.append_inj' hsplit rfl
        obtain ⟨rfl, -⟩ := List.cons.inj heq
        exact .inl hmakes
      | append_singleton later e _ =>
        rw [← List.cons_append, ← List.append_assoc] at hsplit
        obtain ⟨hsteps, heq⟩ := List.append_inj' hsplit rfl
        obtain ⟨rfl, -⟩ := List.cons.inj heq
        refine .inr ⟨ih.2 ⟨earlier, maker, later, hsteps, hmakes, ?_⟩, hnone _ (by simp)⟩
        intro e he
        exact hnone e (List.mem_append_left _ he)

end SpaGateway
