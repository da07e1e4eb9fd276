import Mathlib.Tactic
import SpaGateway.Octets

/-!
# Cutting at marks

`Octets.cut?` splits an octet string at the first occurrence of a mark.  What "first" means
can be said without a search when the mark cannot overlap itself, and the marks of the wire
formats cannot: each is *led* by an octet that stands at its front and nowhere else in it.

For such a mark a cut is characterised by its two parts alone (`cut?_eq_some_iff`): they
surround the mark, and the mark does not occur in the first one.  The same property keeps an
occurrence from reaching across the place where another mark with the same leading octet
begins (`LedBy.infix_append_iff`, `LedBy.infix_mark_append_iff`), which is what the frame
grammar rests on.
-/

namespace SpaGateway

namespace Octets

/-- `lead` is the first octet of `mark` and occurs nowhere else in it. -/
def LedBy (lead : UInt8) (mark : Octets) : Prop := ∃ m, mark = lead :: m ∧ lead ∉ m

variable {lead : UInt8} {mark : Octets}

lemma LedBy.ne_nil (h : LedBy lead mark) : mark ≠ [] := by
  obtain ⟨m, rfl, -⟩ := h
  simp

lemma LedBy.lead_mem (h : LedBy lead mark) : lead ∈ mark := by
  obtain ⟨m, rfl, -⟩ := h
  simp

/-- The leading octet does not come after a nonempty beginning of its mark. -/
lemma LedBy.not_mem_of_append (h : LedBy lead mark) {a b : Octets} (ha : a ≠ [])
    (hab : mark = a ++ b) : lead ∉ b := by
  obtain ⟨m, rfl, hm⟩ := h
  cases a with
  | nil => exact absurd rfl ha
  | cons x a =>
    obtain ⟨rfl, rfl⟩ := List.cons_eq_cons.1 hab
    intro hb
    exact hm (List.mem_append_right a hb)

/-! ## Occurrences of a led mark -/

/-- A string at the front of another agrees with it as far as both reach.  Two tags that differ
in some place are told apart by this, whatever follows them. -/
lemma take_eq_of_prefix_append {a b t : Octets} (h : a <+: b ++ t) :
    a.take b.length = b.take a.length := by
  obtain ⟨s, hs⟩ := h
  obtain ⟨c, rfl, -⟩ | ⟨c, rfl, -⟩ := List.append_eq_append_iff.1 hs <;> simp

/-- A led mark at the front of a string does not reach from a nonempty part into one that
begins with the leading octet. -/
lemma LedBy.prefix_append_iff (h : LedBy lead mark) {a b : Octets} (ha : a ≠ []) :
    mark <+: a ++ lead :: b ↔ mark <+: a := by
  constructor
  · rintro ⟨t, ht⟩
    obtain ⟨a', rfl, -⟩ | ⟨c, hc, hb⟩ := List.append_eq_append_iff.1 ht
    · exact List.prefix_append mark a'
    · cases c with
      | nil => simp [hc]
      | cons x c =>
        obtain ⟨rfl, -⟩ := List.cons_eq_cons.1 hb
        exact absurd List.mem_cons_self (h.not_mem_of_append ha hc)
  · intro ht
    exact ht.trans (List.prefix_append a _)

/-- An occurrence of a led mark lies on one side of the place where a part begins with the
leading octet. -/
lemma LedBy.infix_append_iff (h : LedBy lead mark) (a b : Octets) :
    mark <:+: a ++ lead :: b ↔ mark <:+: a ∨ mark <:+: lead :: b := by
  rw [List.infix_append_iff_ne_nil]
  constructor
  · rintro (ha | hb | ⟨l₁, l₂, hne₁, hne₂, heq, -, hpre⟩)
    · exact .inl ha
    · exact .inr hb
    · obtain ⟨x, l₂, rfl⟩ := List.exists_cons_of_ne_nil hne₂
      obtain ⟨rfl, -⟩ := List.cons_prefix_cons.1 hpre
      exact absurd List.mem_cons_self (h.not_mem_of_append hne₁ heq)
  · rintro (ha | hb)
    · exact .inl ha
    · exact .inr (.inl hb)

/-- A led mark occurs after another mark with the same leading octet, or at its very front. -/
lemma LedBy.infix_mark_append_iff (h : LedBy lead mark) {other : Octets}
    (hother : LedBy lead other) {b : Octets} (hfront : ¬ mark <+: other ++ b) :
    mark <:+: other ++ b ↔ mark <:+: b := by
  obtain ⟨m, rfl, hm⟩ := hother
  rw [List.cons_append] at hfront ⊢
  rw [List.infix_cons_iff, or_iff_right hfront, List.infix_append_iff_ne_nil]
  constructor
  · rintro (hin | hb | ⟨l₁, l₂, hne₁, -, heq, hsuf, -⟩)
    · exact absurd (hin.subset h.lead_mem) hm
    · exact hb
    · -- the straddling part begins with the leading octet, which `m` does not hold
      obtain ⟨m', rfl, -⟩ := h
      obtain ⟨x, l₁, rfl⟩ := List.exists_cons_of_ne_nil hne₁
      obtain ⟨rfl, -⟩ := List.cons_eq_cons.1 heq
      exact absurd (hsuf.subset List.mem_cons_self) hm
  · intro hb
    exact .inr (.inl hb)

/-- A led mark does not occur in a string without its leading octet. -/
lemma LedBy.not_infix_of_notMem (h : LedBy lead mark) {s : Octets} (hs : lead ∉ s) :
    ¬ mark <:+: s := by
  intro hin
  exact hs (hin.subset h.lead_mem)

/-- A led mark does not occur at the front of a string that begins otherwise. -/
lemma LedBy.infix_cons_iff_of_ne (h : LedBy lead mark) {x : UInt8} (hx : x ≠ lead)
    (s : Octets) : mark <:+: x :: s ↔ mark <:+: s := by
  rw [List.infix_cons_iff, or_iff_right]
  intro hfront
  obtain ⟨m, rfl, -⟩ := h
  exact hx (List.cons_prefix_cons.1 hfront).1.symm

/-- An occurrence of a led mark lies on one side of an octet that is not in the mark. -/
lemma LedBy.infix_append_cons_iff (h : LedBy lead mark) {x : UInt8} (hx : x ∉ mark)
    (a b : Octets) : mark <:+: a ++ x :: b ↔ mark <:+: a ∨ mark <:+: b := by
  rw [List.infix_append_iff_ne_nil, List.infix_cons_iff]
  constructor
  · rintro (ha | (hfront | hb) | ⟨l₁, l₂, -, hne₂, rfl, -, hpre⟩)
    · exact .inl ha
    · -- at the very front the mark would begin with `x`
      obtain ⟨y, m, rfl⟩ := List.exists_cons_of_ne_nil h.ne_nil
      obtain ⟨rfl, -⟩ := List.cons_prefix_cons.1 hfront
      exact absurd List.mem_cons_self hx
    · exact .inr hb
    · -- the part of the mark behind the border would begin with `x`
      obtain ⟨y, l₂, rfl⟩ := List.exists_cons_of_ne_nil hne₂
      obtain ⟨rfl, -⟩ := List.cons_prefix_cons.1 hpre
      exact absurd (List.mem_append_right l₁ List.mem_cons_self) hx
  · rintro (ha | hb)
    · exact .inl ha
    · exact .inr (.inl (.inr hb))

/-! ## Cuts -/

lemma dropLead?_eq_none_iff {s : Octets} : dropLead? mark s = none ↔ ¬ mark <+: s := by
  rw [Option.eq_none_iff_forall_ne_some]
  constructor
  · rintro h ⟨rest, hrest⟩
    exact h rest (dropLead?_eq_some_iff.2 hrest.symm)
  · intro h rest hrest
    exact h ⟨rest, (dropLead?_eq_some_iff.1 hrest).symm⟩

/-- There is nothing to cut at exactly when the mark does not occur. -/
lemma cut?_eq_none_iff {s : Octets} : cut? mark s = none ↔ ¬ mark <:+: s := by
  induction s with
  | nil => simp [cut?, dropLead?_eq_none_iff]
  | cons b s ih =>
    rw [List.infix_cons_iff, not_or, ← ih, ← dropLead?_eq_none_iff]
    cases hlead : dropLead? mark (b :: s) <;> simp [cut?, hlead]

/-- **A cut at a led mark.**  The two parts surround the mark, and the mark does not occur in
the first one. -/
theorem cut?_eq_some_iff (h : LedBy lead mark) {s before after : Octets} :
    cut? mark s = some (before, after) ↔ s = before ++ mark ++ after ∧ ¬ mark <:+: before := by
  constructor
  · intro hcut
    refine ⟨eq_of_cut? hcut, ?_⟩
    induction s generalizing before with
    | nil =>
      obtain ⟨rest, -, hrest⟩ := Option.map_eq_some_iff.1 hcut
      obtain ⟨rfl, rfl⟩ := Prod.mk.inj hrest
      simp [h.ne_nil]
    | cons b s ih =>
      have hs := eq_of_cut? hcut
      simp only [cut?] at hcut
      split at hcut
      · obtain ⟨rfl, rfl⟩ := Prod.mk.inj (Option.some.inj hcut)
        simp [h.ne_nil]
      · rename_i hlead
        obtain ⟨⟨before', after'⟩, hcut', hparts⟩ := Option.map_eq_some_iff.1 hcut
        obtain ⟨rfl, rfl⟩ := Prod.mk.inj hparts
        rw [List.infix_cons_iff, not_or]
        refine ⟨?_, ih hcut'⟩
        intro hpre
        apply dropLead?_eq_none_iff.1 hlead
        rw [hs, List.append_assoc]
        exact hpre.trans (List.prefix_append _ _)
  · rintro ⟨rfl, hbefore⟩
    induction before with
    | nil =>
      obtain ⟨m, rfl, -⟩ := h
      have hlead : dropLead? (lead :: m) (lead :: (m ++ after)) = some after :=
        dropLead?_append (lead :: m) after
      simp [cut?, hlead]
    | cons b before ih =>
      rw [List.infix_cons_iff, not_or] at hbefore
      have hlead : dropLead? mark (b :: (before ++ mark ++ after)) = none := by
        rw [dropLead?_eq_none_iff]
        obtain ⟨m, rfl, hm⟩ := h
        have hb : b :: before ≠ [] := by simp
        have := (LedBy.prefix_append_iff ⟨m, rfl, hm⟩ (b := m ++ after) hb).not.2 hbefore.1
        simpa using this
      simp only [List.cons_append, cut?]
      rw [hlead, ih hbefore.2]
      rfl

end Octets

end SpaGateway
