import Mathlib.Tactic
import SpaGateway.Proofs.Payload.Layout

/-!
# Payloads and octets in bijection

Reading a payload is the inverse of writing it.  A reader takes a field from the front of the input
exactly if the input begins with what the field is written as, and hands on the rest
(`Octets.takeOctet?_bind_eq_some_iff` and its companions).  The readers of bodies compose these, so
whatever is read was written like that (`Payload.eq_compose_of_parseBody?`).  Together with the
layout this makes reading accept exactly what is written of payloads that fit
(`Payload.parse?_eq_some_iff_compose_eq`).
-/

namespace SpaGateway

open Octets

/-! ## Fields -/

namespace Octets

lemma toNat_toWord (high low : UInt8) : (toWord high low).toNat = high.toNat * 256 + low.toNat := by
  have hlow : low.toNat < 2 ^ 8 := low.toNat_lt
  have hhigh : high.toNat < 2 ^ 8 := high.toNat_lt
  have hshift : high.toNat <<< 8 % 65536 = high.toNat <<< 8 := by
    rw [Nat.shiftLeft_eq]
    exact Nat.mod_eq_of_lt (by omega)
  calc (toWord high low).toNat = high.toNat <<< 8 % 65536 ||| low.toNat := by simp [toWord]
    _ = high.toNat <<< 8 + low.toNat := by rw [hshift, Nat.shiftLeft_add_eq_or_of_lt hlow]
    _ = high.toNat * 256 + low.toNat := by rw [Nat.shiftLeft_eq]

lemma ofWord_toWord (high low : UInt8) : ofWord (toWord high low) = [high, low] := by
  have hword := toNat_toWord high low
  have hlow := low.toNat_lt
  have hhigh := high.toNat_lt
  have hfirst : (toWord high low >>> 8).toUInt8 = high := by
    apply UInt8.toNat_inj.1
    simp [hword, Nat.shiftRight_eq_div_pow]
    omega
  have hsecond : (toWord high low).toUInt8 = low := by
    apply UInt8.toNat_inj.1
    simp [hword]
  rw [ofWord, hfirst, hsecond]

section

variable {β : Type} {s : Octets} {r : β}

lemma takeOctet?_bind_eq_some_iff {f : UInt8 × Octets → Option β} :
    (takeOctet? s).bind f = some r ↔ ∃ b rest, s = b :: rest ∧ f (b, rest) = some r := by
  cases s <;> simp [takeOctet?]

lemma takeWord?_bind_eq_some_iff {f : UInt16 × Octets → Option β} :
    (takeWord? s).bind f = some r ↔ ∃ w rest, s = ofWord w ++ rest ∧ f (w, rest) = some r := by
  constructor
  · intro h
    rcases s with _ | ⟨high, _ | ⟨low, s⟩⟩
    · cases h
    · cases h
    · refine ⟨toWord high low, s, ?_, h⟩
      rw [ofWord_toWord]
      rfl
  · rintro ⟨w, rest, rfl, h⟩
    have hread : takeWord? (ofWord w ++ rest) =
        some (toWord (w >>> 8).toUInt8 w.toUInt8, rest) := rfl
    rw [hread, toWord_ofWord]
    exact h

lemma takeExactly?_eq_some_iff {n : Nat} {a rest : Octets} :
    takeExactly? n s = some (a, rest) ↔ a.length = n ∧ s = a ++ rest := by
  constructor
  · intro h
    unfold takeExactly? at h
    split at h
    · obtain ⟨rfl, rfl⟩ := Prod.mk.inj (Option.some.inj h)
      exact ⟨List.length_take_of_le ‹_›, (List.take_append_drop n s).symm⟩
    · cases h
  · rintro ⟨rfl, rfl⟩
    exact takeExactly?_append a rest

lemma takeExactly?_bind_eq_some_iff {n : Nat} {f : Octets × Octets → Option β} :
    (takeExactly? n s).bind f = some r ↔
      ∃ a rest, a.length = n ∧ s = a ++ rest ∧ f (a, rest) = some r := by
  simp [Option.bind_eq_some_iff, takeExactly?_eq_some_iff, and_assoc]

end

end Octets

/-! ## Records -/

lemma PackAction.eq_compose_of_parse? {s : Octets} {action : PackAction}
    (h : parse? s = some action) : s = action.compose := by
  simp only [parse?, Option.bind_eq_bind, takeOctet?_bind_eq_some_iff] at h
  obtain ⟨code, body, rfl, h⟩ := h
  split at h
  · -- a key press, with nothing after the key
    rename_i hpress
    simp only [takeOctet?_bind_eq_some_iff] at h
    obtain ⟨key, rest, rfl, h⟩ := h
    obtain ⟨rfl, rfl⟩ : rest = [] ∧ keyPress key = action := by simpa using h
    rw [hpress, compose]
  · split at h
    · -- a write, with all that follows the position as its data
      rename_i hset
      simp only [takeOctet?_bind_eq_some_iff, takeWord?_bind_eq_some_iff] at h
      obtain ⟨configVersion, _, rfl, logVersion, _, rfl, position, data, rfl, h⟩ := h
      obtain rfl := Option.some.inj h
      rw [hset]
      rfl
    · cases h

lemma FirmwareVersion.eq_of_take? {s rest : Octets} {v : FirmwareVersion}
    (h : take? s = some (v, rest)) : s = v.compose ++ rest := by
  simp only [take?, Option.bind_eq_bind, takeOctet?_bind_eq_some_iff,
    takeWord?_bind_eq_some_iff] at h
  obtain ⟨enBuild, _, rfl, enMajor, _, rfl, enMinor, _, rfl, coBuild, _, rfl, coMajor, _, rfl,
    coMinor, _, rfl, h⟩ := h
  obtain ⟨rfl, rfl⟩ := Prod.mk.inj (Option.some.inj h)
  simp [compose]

lemma StatusChange.eq_of_takeMany? {n : Nat} {s rest : Octets} {changes : List StatusChange}
    (h : takeMany? n s = some (changes, rest)) :
    changes.length = n ∧ s = changes.flatMap compose ++ rest := by
  induction n generalizing s changes with
  | zero =>
    obtain ⟨rfl, rfl⟩ := Prod.mk.inj (Option.some.inj h)
    exact ⟨rfl, rfl⟩
  | succ n ih =>
    simp only [takeMany?, Option.bind_eq_bind, takeOctet?_bind_eq_some_iff,
      takeWord?_bind_eq_some_iff] at h
    obtain ⟨position, _, rfl, first, _, rfl, second, tail, rfl, h⟩ := h
    obtain ⟨⟨others, _⟩, hothers, h⟩ := Option.bind_eq_some_iff.1 h
    obtain ⟨rfl, rfl⟩ := Prod.mk.inj (Option.some.inj h)
    obtain ⟨rfl, rfl⟩ := ih hothers
    exact ⟨rfl, by simp [compose, data]⟩

namespace Payload

/-! ## Payloads -/

/-- What an octet announces fits the octet, and is announced by it. -/
lemma lengthOctet_of_eq_toNat {n : Nat} {length : UInt8} (h : n = length.toNat) :
    n ≤ 255 ∧ lengthOctet n = length := by
  have hlt := length.toNat_lt
  refine ⟨by omega, ?_⟩
  rw [h]
  exact UInt8.ofNat_toNat

/-- What is read of a body was written like that. -/
lemma eq_compose_of_parseBody? {tag s rest : Octets} {d : Payload}
    (h : parseBody? tag s = some (d, rest)) : d.Fits ∧ tag ++ s = d.compose ++ rest := by
  unfold parseBody? at h
  -- the branches follow the tags, in the order in which they are tried
  split at h
  · rename_i htag
    simp only [Option.bind_eq_bind, takeOctet?_bind_eq_some_iff] at h
    obtain ⟨seq, _, rfl, h⟩ := h
    obtain ⟨rfl, rfl⟩ := Prod.mk.inj (Option.some.inj h)
    exact ⟨trivial, by simp [htag, compose]⟩
  split at h
  · rename_i htag
    obtain ⟨⟨v, _⟩, hv, h⟩ := Option.bind_eq_some_iff.1 h
    obtain ⟨rfl, rfl⟩ := Prod.mk.inj (Option.some.inj h)
    exact ⟨trivial, by simp [htag, compose, FirmwareVersion.eq_of_take? hv]⟩
  split at h
  · rename_i htag
    simp only [Option.bind_eq_bind, takeOctet?_bind_eq_some_iff,
      takeWord?_bind_eq_some_iff] at h
    obtain ⟨seq, _, rfl, start, _, rfl, length, _, rfl, h⟩ := h
    obtain ⟨rfl, rfl⟩ := Prod.mk.inj (Option.some.inj h)
    exact ⟨trivial, by simp [htag, compose]⟩
  split at h
  · rename_i htag
    simp only [Option.bind_eq_bind, takeOctet?_bind_eq_some_iff,
      takeExactly?_bind_eq_some_iff] at h
    obtain ⟨seq, _, rfl, next, _, rfl, length, _, rfl, data, _, hlength, rfl, h⟩ := h
    obtain ⟨rfl, rfl⟩ := Prod.mk.inj (Option.some.inj h)
    obtain ⟨hfits, hlength⟩ := lengthOctet_of_eq_toNat hlength
    exact ⟨hfits, by simp [htag, compose, hlength]⟩
  split at h
  · rename_i htag
    simp only [Option.bind_eq_bind, takeOctet?_bind_eq_some_iff] at h
    obtain ⟨count, s, rfl, h⟩ := h
    obtain ⟨⟨changes, _⟩, hchanges, h⟩ := Option.bind_eq_some_iff.1 h
    obtain ⟨rfl, rfl⟩ := Prod.mk.inj (Option.some.inj h)
    obtain ⟨hcount, rfl⟩ := StatusChange.eq_of_takeMany? hchanges
    obtain ⟨hfits, hcount⟩ := lengthOctet_of_eq_toNat hcount
    exact ⟨hfits, by simp [htag, compose, hcount]⟩
  split at h
  · rename_i htag
    simp only [Option.bind_eq_bind, takeOctet?_bind_eq_some_iff] at h
    obtain ⟨seq, _, rfl, h⟩ := h
    obtain ⟨rfl, rfl⟩ := Prod.mk.inj (Option.some.inj h)
    exact ⟨trivial, by simp [htag, compose]⟩
  split at h
  · rename_i htag
    simp only [Option.bind_eq_bind, takeOctet?_bind_eq_some_iff,
      takeExactly?_bind_eq_some_iff] at h
    obtain ⟨seq, _, rfl, packType, _, rfl, length, _, rfl, bytes, _, hlength, rfl, h⟩ := h
    obtain ⟨action, haction, h⟩ := Option.bind_eq_some_iff.1 h
    obtain ⟨rfl, rfl⟩ := Prod.mk.inj (Option.some.inj h)
    obtain rfl := PackAction.eq_compose_of_parse? haction
    obtain ⟨hfits, hlength⟩ := lengthOctet_of_eq_toNat hlength
    exact ⟨fits_pack_iff.2 hfits, by simp [htag, compose, hlength]⟩
  split at h
  · rename_i htag
    simp only [Option.bind_eq_bind, takeOctet?_bind_eq_some_iff] at h
    obtain ⟨seq, _, rfl, mode, _, rfl, h⟩ := h
    obtain ⟨rfl, rfl⟩ := Prod.mk.inj (Option.some.inj h)
    exact ⟨trivial, by simp [htag, compose]⟩
  · cases h

lemma compose_eq_of_parse? {b : Octets} {d : Payload} (h : parse? b = some d) :
    d.Fits ∧ d.compose = b := by
  unfold parse? at h
  split at h
  · cases h
  · rename_i tag s htake
    split at h
    · rename_i d' hbody
      obtain rfl := Option.some.inj h
      obtain ⟨-, rfl⟩ := takeExactly?_eq_some_iff.1 htake
      obtain ⟨hfits, hcompose⟩ := eq_compose_of_parseBody? hbody
      rw [List.append_nil] at hcompose
      exact ⟨hfits, hcompose.symm⟩
    · cases h

/-- **Payloads and octets are in bijection.**  A payload is read of exactly the octets that it is
written as, if it fits its layout; and what is written of one that does not fit is not read as any
payload. -/
theorem parse?_eq_some_iff_compose_eq (b : Octets) (d : Payload) :
    (parse? b = some d ↔ d.Fits ∧ d.compose = b) ∧ (¬ d.Fits → parse? d.compose = none) := by
  refine ⟨⟨compose_eq_of_parse?, ?_⟩, parse?_compose_of_not_fits⟩
  rintro ⟨hfits, rfl⟩
  exact parse?_compose hfits

end Payload

end SpaGateway
