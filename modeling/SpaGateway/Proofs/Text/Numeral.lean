import Mathlib.Data.List.TakeWhile
import Mathlib.Tactic
import SpaGateway.Text.Numeral

/-!
# Numerals that are read back

Numbers are written by their shortest digits.  Readers take as many digits as there are, so they
read a number back if no digit follows it (`takeNumber?_toDigits`).  The other way round, a text
that is read as a number need not be what is written for it, as there may be zeros in front.  Where
those are refused, it is (`decimal_value`).

`takeNumber?_eq_some_iff` says all that a reader can take: a numeral (`IsNumeral`), and then the
rest.
-/

namespace SpaGateway

/-! ## Where a run of characters ends -/

section

variable {α : Type} {p : α → Bool} {l r l' r' : List α}

/-- What is taken while it lasts is known if the next one is of another kind. -/
lemma takeWhile_append_of_head? (hl : ∀ a ∈ l, p a = true) (hr : ∀ a ∈ r.head?, p a = false) :
    (l ++ r).takeWhile p = l := by
  rw [List.takeWhile_append_of_pos hl]
  cases r with
  | nil => exact List.append_nil l
  | cons a r => simp [hr a rfl]

/-- So a text falls into such a run and the rest in one way only. -/
lemma append_inj_of_head? (h : l ++ r = l' ++ r') (hl : ∀ a ∈ l, p a = true)
    (hl' : ∀ a ∈ l', p a = true) (hr : ∀ a ∈ r.head?, p a = false)
    (hr' : ∀ a ∈ r'.head?, p a = false) : l = l' ∧ r = r' := by
  have hsame : l = l' := by
    rw [← takeWhile_append_of_head? hl hr, h, takeWhile_append_of_head? hl' hr']
  exact ⟨hsame, List.append_cancel_left (hsame ▸ h)⟩

end

namespace Numeral

variable {radix n : Nat} {c : Char} {digits s rest : List Char}

/-! ## Digits -/

lemma digitValue?_digitChar (h : n < 16) : digitValue? n.digitChar = some n := by
  interval_cases n <;> rfl

lemma isDigit_iff : isDigit radix c = true ↔ ∃ d < radix, digitValue? c = some d := by
  simp [isDigit, Option.any_eq_true, and_comm]

lemma isDigit_digitChar (h : n < radix) (hradix : radix ≤ 16) :
    isDigit radix n.digitChar = true :=
  isDigit_iff.2 ⟨n, h, digitValue?_digitChar (h.trans_le hradix)⟩

lemma isDigit_mono {radix' : Nat} (hle : radix ≤ radix') (h : isDigit radix c = true) :
    isDigit radix' c = true := by
  obtain ⟨d, hlt, hd⟩ := isDigit_iff.1 h
  exact isDigit_iff.2 ⟨d, hlt.trans_le hle, hd⟩

/-- A decimal digit is the one that is written for its value. -/
lemma exists_digitChar_of_isDigit (h : isDigit 10 c = true) :
    ∃ d < 10, digitValue? c = some d ∧ d.digitChar = c := by
  obtain ⟨d, hlt, hd⟩ := isDigit_iff.1 h
  refine ⟨d, hlt, hd, ?_⟩
  have hcode : c.toNat = 48 + d := by
    rw [digitValue?] at hd
    split_ifs at hd with hdigit hlower hupper <;> obtain rfl := Option.some.inj hd
    · have : 48 ≤ c.toNat := hdigit.1
      omega
    · have : 97 ≤ c.toNat := hlower.1
      omega
    · have : 65 ≤ c.toNat := hupper.1
      omega
  rw [← Char.ofNat_toNat c, hcode]
  interval_cases d <;> rfl

lemma value_concat (digits : List Char) (c : Char) :
    value radix (digits ++ [c]) = value radix digits * radix + (digitValue? c).getD 0 := by
  rw [value, List.foldl_append]
  rfl

/-! ## Writing -/

lemma isDigit_of_mem_toDigits (hradix : 1 < radix) (hle : radix ≤ 16) (n : Nat) :
    ∀ c ∈ Nat.toDigits radix n, isDigit radix c = true := by
  induction n using Nat.strongRecOn with
  | ind n ih =>
    rw [Nat.toDigits_eq_if hradix]
    split
    · rename_i hlt
      simpa using isDigit_digitChar hlt hle
    · rename_i hge
      have hpos : 0 < n := by omega
      rw [List.forall_mem_append, List.forall_mem_singleton]
      exact ⟨ih _ (Nat.div_lt_self hpos hradix),
        isDigit_digitChar (Nat.mod_lt _ (by omega)) hle⟩

/-- **The digits of a number spell it.** -/
theorem value_toDigits (hradix : 1 < radix) (hle : radix ≤ 16) (n : Nat) :
    value radix (Nat.toDigits radix n) = n := by
  induction n using Nat.strongRecOn with
  | ind n ih =>
    rw [Nat.toDigits_eq_if hradix]
    split
    · rename_i hlt
      simp [value, digitValue?_digitChar (hlt.trans_le hle)]
    · rename_i hge
      have hpos : 0 < n := by omega
      have hlast : n % radix < 16 := (Nat.mod_lt _ (by omega)).trans_le hle
      rw [value_concat, ih _ (Nat.div_lt_self hpos hradix), digitValue?_digitChar hlast]
      exact Nat.div_add_mod' n radix

/-- A zero in front is all there is. -/
lemma eq_zero_of_head?_toDigits (hradix : 1 < radix) (hle : radix ≤ 16) (n : Nat)
    (h : (Nat.toDigits radix n).head? = some '0') : n = 0 := by
  induction n using Nat.strongRecOn with
  | ind n ih =>
    rw [Nat.toDigits_eq_if hradix] at h
    split at h
    · rename_i hlt
      have hchar : n.digitChar = '0' := by simpa using h
      have hvalue := digitValue?_digitChar (hlt.trans_le hle)
      rw [hchar] at hvalue
      exact (Option.some.inj hvalue).symm
    · rename_i hge
      rw [List.head?_append_of_ne_nil _ Nat.toDigits_ne_nil] at h
      have hzero : n / radix = 0 := ih _ (Nat.div_lt_self (by omega) hradix) h
      exact absurd ((Nat.div_eq_zero_iff_lt (by omega)).1 hzero) hge

/-! ## Reading -/

/-- No digit stands in front of a text. -/
def NoDigitAhead (radix : Nat) (s : List Char) : Prop :=
  ∀ c ∈ s.head?, isDigit radix c = false

@[simp]
lemma noDigitAhead_nil : NoDigitAhead radix [] := nofun

@[simp]
lemma noDigitAhead_cons : NoDigitAhead radix (c :: s) ↔ isDigit radix c = false := by
  simp [NoDigitAhead]

/-- Digits that are read as a number: not too many, and no superfluous zero in front unless that is
allowed. -/
structure IsNumeral (radix : Nat) (most : Option Nat) (zerosAllowed : Bool) (digits : List Char) :
    Prop where
  ne_nil : digits ≠ []
  isDigit : ∀ c ∈ digits, isDigit radix c = true
  length_le : ∀ m ∈ most, digits.length ≤ m
  length_of_zero : zerosAllowed = false → digits.head? = some '0' → digits.length = 1

variable {most : Option Nat} {zerosAllowed : Bool}

/-- **A number is read off a text just if its digits stand there and no digit follows.** -/
theorem takeNumber?_eq_some_iff :
    takeNumber? radix most zerosAllowed s = some (n, rest) ↔
      ∃ digits, IsNumeral radix most zerosAllowed digits ∧ NoDigitAhead radix rest ∧
        s = digits ++ rest ∧ value radix digits = n := by
  constructor
  · intro h
    rw [takeNumber?] at h
    split_ifs at h with hnone hzero
    obtain ⟨rfl, rfl⟩ := Prod.mk.inj (Option.some.inj h)
    rw [not_or] at hnone
    have hdrop : s.drop (s.takeWhile (isDigit radix)).length = s.dropWhile (isDigit radix) := by
      calc s.drop (s.takeWhile (isDigit radix)).length
        _ = (s.takeWhile (isDigit radix) ++ s.dropWhile (isDigit radix)).drop
              (s.takeWhile (isDigit radix)).length := by rw [List.takeWhile_append_dropWhile]
        _ = s.dropWhile (isDigit radix) := List.drop_left
    refine ⟨s.takeWhile (isDigit radix), ⟨hnone.1, fun _ => List.mem_takeWhile_imp, ?_, ?_⟩,
      ?_, ?_, rfl⟩
    · intro m hm
      simpa [Option.mem_def.1 hm] using hnone.2
    · intro hallowed hhead
      simpa [hallowed, hhead] using hzero
    · intro c hc
      rw [hdrop] at hc
      simpa [Option.mem_def.1 hc] using List.head?_dropWhile_not (isDigit radix) s
    · rw [hdrop, List.takeWhile_append_dropWhile]
  · rintro ⟨digits, hdigits, hrest, rfl, rfl⟩
    have htake : (digits ++ rest).takeWhile (isDigit radix) = digits :=
      takeWhile_append_of_head? hdigits.isDigit hrest
    have hmost : most.any (· < digits.length) = false := by
      cases most with
      | none => rfl
      | some m => simpa using hdigits.length_le m rfl
    have hzero : (!zerosAllowed && digits.head? == some '0' && digits.length != 1) = false := by
      cases zerosAllowed with
      | true => rfl
      | false => simpa using hdigits.length_of_zero rfl
    simp [takeNumber?, htake, hdigits.ne_nil, hmost, hzero]

lemma takeNumber?_eq_none (h : NoDigitAhead radix s) :
    takeNumber? radix most zerosAllowed s = none := by
  have htake : s.takeWhile (isDigit radix) = [] :=
    takeWhile_append_of_head? (List.forall_mem_nil _) h
  rw [takeNumber?, if_pos (.inl htake)]

/-- What is written as a number is such a numeral. -/
lemma isNumeral_toDigits (hradix : 1 < radix) (hle : radix ≤ 16)
    (hmost : ∀ m ∈ most, 0 < m ∧ n < radix ^ m) :
    IsNumeral radix most zerosAllowed (Nat.toDigits radix n) where
  ne_nil := Nat.toDigits_ne_nil
  isDigit := isDigit_of_mem_toDigits hradix hle n
  length_le m hm := (Nat.length_toDigits_le_iff hradix (hmost m hm).1).2 (hmost m hm).2
  length_of_zero _ hhead := by
    obtain rfl := eq_zero_of_head?_toDigits hradix hle n hhead
    rw [Nat.toDigits_of_lt_base (by omega)]
    rfl

/-- **A number is read back from what is written for it.** -/
theorem takeNumber?_toDigits (hradix : 1 < radix) (hle : radix ≤ 16)
    (hmost : ∀ m ∈ most, 0 < m ∧ n < radix ^ m) (hrest : NoDigitAhead radix rest) :
    takeNumber? radix most zerosAllowed (Nat.toDigits radix n ++ rest) = some (n, rest) :=
  takeNumber?_eq_some_iff.2
    ⟨_, isNumeral_toDigits hradix hle hmost, hrest, rfl, value_toDigits hradix hle n⟩

lemma takeNumber?_decimal (n : Nat) (hrest : NoDigitAhead 10 rest) :
    takeNumber? 10 none true (decimal n ++ rest) = some (n, rest) :=
  takeNumber?_toDigits (by decide) (by decide) nofun hrest

/-- **Where no superfluous zero is allowed, only what is written for a number is read as it.** -/
theorem decimal_value (h : IsNumeral 10 most false digits) :
    decimal (value 10 digits) = digits := by
  have hne := h.ne_nil
  have hdigits := h.isDigit
  have hzero := h.length_of_zero rfl
  clear h
  induction digits using List.reverseRecOn with
  | nil => exact absurd rfl hne
  | append_singleton front c ih =>
    obtain ⟨d, hlt, hd, hc⟩ := exists_digitChar_of_isDigit (hdigits c (by simp))
    by_cases hfront : front = []
    · subst hfront
      simp [value, decimal, hd, Nat.toDigits_of_lt_base hlt, hc]
    · have hhead : front.head? ≠ some '0' := by
        intro hhead
        have hlength := hzero (by rw [List.head?_append_of_ne_nil _ hfront, hhead])
        exact hfront (List.length_eq_zero_iff.1 (by simpa using hlength))
      have hback : decimal (value 10 front) = front :=
        ih hfront (fun c hc => hdigits c (List.mem_append_left _ hc)) (absurd · hhead)
      have hpos : 0 < value 10 front := by
        rw [Nat.pos_iff_ne_zero]
        intro hvalue
        rw [hvalue] at hback
        exact hhead (by rw [← hback]; rfl)
      rw [value_concat, hd, Option.getD_some, decimal, Nat.toDigits_eq_if (by omega),
        if_neg (by omega), show (value 10 front * 10 + d) / 10 = value 10 front by omega,
        show (value 10 front * 10 + d) % 10 = d by omega, hc, ← decimal, hback]

/-! ## Whole texts -/

variable {bound : Nat}

lemma unsigned?_of_digits (hne : s ≠ []) (hs : ∀ c ∈ s, isDigit 10 c = true)
    (hlt : value 10 s < bound) : unsigned? bound s = some (value 10 s) := by
  have hdigits : digits? 10 s = some (value 10 s) := by
    rw [digits?, if_pos ⟨hne, List.all_eq_true.2 hs⟩]
  unfold unsigned?
  split
  · exact absurd (hs '+' (by simp)) (by decide)
  · simp [hdigits, hlt]

end Numeral

end SpaGateway
