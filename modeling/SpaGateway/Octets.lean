/-!
# Octet strings

Everything that travels between the spa, the controller apps and the gateway is a finite
string of octets. This module fixes that type and the few operations the wire formats
need: the octets of an ASCII text, removing a lead, cutting at the first occurrence of a
mark, big-endian words, and a printable rendering for messages.
-/

namespace SpaGateway

/-- A finite string of octets, the first one at the head. -/
abbrev Octets := List UInt8

namespace Octets

/-- The octets that spell ASCII characters. -/
def ofChars (text : List Char) : Octets := text.map Char.toUInt8

/-! ## Leads and marks -/

/-- What follows `lead` in an octet string that begins with it. -/
def dropLead? : Octets → Octets → Option Octets
  | [], s => some s
  | _ :: _, [] => none
  | a :: lead, b :: s => if a = b then dropLead? lead s else none

/-- The parts of an octet string before and after the first occurrence of `mark`. -/
def cut? (mark : Octets) : Octets → Option (Octets × Octets)
  | [] => (dropLead? mark []).map ([], ·)
  | b :: s =>
    match dropLead? mark (b :: s) with
    | some after => some ([], after)
    | none => (cut? mark s).map fun (before, after) => (b :: before, after)

/-- Whether an octet string begins with `lead`. -/
def startsWith (s lead : Octets) : Bool := (dropLead? lead s).isSome

theorem dropLead?_eq_some_iff {lead s rest : Octets} :
    dropLead? lead s = some rest ↔ s = lead ++ rest := by
  induction lead generalizing s with
  | nil => simp [dropLead?, eq_comm]
  | cons a lead ih =>
    cases s with
    | nil => simp [dropLead?]
    | cons b s =>
      by_cases h : a = b
      · simp [dropLead?, h, ih]
      · simp [dropLead?, h, Ne.symm h]

theorem dropLead?_append (lead rest : Octets) : dropLead? lead (lead ++ rest) = some rest :=
  dropLead?_eq_some_iff.2 rfl

/-- A cut loses nothing but the mark. -/
theorem eq_of_cut? {mark s before after : Octets} (h : cut? mark s = some (before, after)) :
    s = before ++ mark ++ after := by
  induction s generalizing before with
  | nil =>
    simp only [cut?, Option.map_eq_some_iff, Prod.mk.injEq] at h
    obtain ⟨rest, hrest, rfl, rfl⟩ := h
    simpa using dropLead?_eq_some_iff.1 hrest
  | cons b s ih =>
    simp only [cut?] at h
    split at h
    · rename_i rest hrest
      simp only [Option.some.injEq, Prod.mk.injEq] at h
      obtain ⟨rfl, rfl⟩ := h
      simpa using dropLead?_eq_some_iff.1 hrest
    · simp only [Option.map_eq_some_iff, Prod.mk.injEq, Prod.exists] at h
      obtain ⟨x, y, hxy, rfl, rfl⟩ := h
      simpa using ih hxy

/-! ## Big-endian words -/

/-- The two octets of a word, the high one first. -/
def ofWord (w : UInt16) : Octets := [(w >>> 8).toUInt8, w.toUInt8]

/-- The word spelled by a high and a low octet. -/
def toWord (high low : UInt8) : UInt16 := high.toUInt16 <<< 8 ||| low.toUInt16

/-! ## Rendering -/

/-- The lower-case hexadecimal digit of a number below sixteen. -/
def hexDigit (n : Nat) : Char := if n < 10 then Char.ofNat (48 + n) else Char.ofNat (87 + n)

/-- The two lower-case hexadecimal digits of an octet. -/
def hexPair (b : UInt8) : List Char := [hexDigit (b.toNat / 16), hexDigit (b.toNat % 16)]

/-- An address as messages write it: `0x` and four hexadecimal digits. -/
def hexWord (w : UInt16) : String :=
  String.ofList (['0', 'x'] ++ (ofWord w).flatMap hexPair)

/-- Octets that print as themselves: the visible ASCII characters and the blank. -/
def isPrintable (b : UInt8) : Bool := 0x20 ≤ b && b ≤ 0x7e

/-- An octet string as messages show it: printable octets as they are, every other octet
as a hexadecimal escape. -/
def printable (s : Octets) : String :=
  String.ofList <| s.flatMap fun b =>
    if isPrintable b then [Char.ofNat b.toNat] else ['\\', 'x'] ++ hexPair b

end Octets

end SpaGateway
