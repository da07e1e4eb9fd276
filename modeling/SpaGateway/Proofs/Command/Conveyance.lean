import Mathlib.Tactic
import SpaGateway.Proofs.Command.Rendering
import SpaGateway.Proofs.Frame.Field
import SpaGateway.Proofs.Session.Safety

/-!
# Short commands arrive as they were meant

A command becomes payloads, a payload the content of a package, and the package a frame, which ends
where a closing tag shows.  Almost all octets of a payload are free: the sequence number, the pack
type, the versions, the address, and the data of a write.  Still they cannot spell a closing tag as
long as a write has no more than three octets of data.  The octets of the payload's own tag begin no
closing tag, the code of the action is in none, and neither before nor after the code there are
eight octets in a row.

With `Command.rendering` for what a command asks for, the main statement is that whatever payload is
taken of an accepted short command, an authorized session wraps it into a package that is read back
from its frame and whose content is read as that rendering (`Translator.conveyed_of_short`).  Four
octets of data are too many.
-/

namespace SpaGateway

namespace Command

/-- What a command asks for, under a sequence number: a write or a mode change at once, key presses
one by one. -/
def rendering (settings : CommandSettings) (number : UInt8) : Command → Payload
  | rawWrite address data =>
    .pack number settings.packType
      (.set settings.configVersion settings.logVersion address data)
  | modeWrite mode => .setWatercare number mode
  | keyPress key _ => .pack number settings.packType (.keyPress key)

/-- Whether a command writes no more than three octets. -/
def IsShort : Command → Prop
  | rawWrite _ data => data.length ≤ 3
  | _ => True

lemma fits_rendering {command : Command} (h : command.IsShort) (settings : CommandSettings)
    (number : UInt8) : (command.rendering settings number).Fits := by
  cases command with
  | rawWrite address data =>
    have hshort : data.length ≤ 3 := h
    show data.length ≤ 250
    omega
  | modeWrite | keyPress => trivial

end Command

/-! ## Payloads that hold no closing tag -/

namespace Payload

/-- A pack command fits the content field if what follows the code of its action is shorter than
a closing tag.  The code itself is an octet of no closing tag. -/
lemma fitsField_pack {seq packType code : UInt8} {action : PackAction} {back : Octets}
    (haction : action.compose = code :: back) (hback : back.length < Frame.closeTagLength)
    (hpacket : code ∉ Frame.closeTag Frame.packetName)
    (hfield : code ∉ Frame.closeTag Frame.Field.content.name) :
    Frame.FitsField .content (pack seq packType action).compose := by
  have hsplit : (pack seq packType action).compose =
      packTag ++ ([seq, packType, lengthOctet action.compose.length] ++ code :: back) := by
    rw [compose, haction, List.append_assoc]
  rw [hsplit, Frame.fitsField_append_iff (by decide), Frame.fitsField_append_cons_iff hpacket hfield]
  exact ⟨Frame.fitsField_of_length_lt (show 3 < 8 by omega), Frame.fitsField_of_length_lt hback⟩

/-- Keepalives begin otherwise than the payloads that commands ask for. -/
lemma isCanonical_data {payload : Octets} (h : payload.head? ≠ some 0x41) :
    (Content.data payload).IsCanonical := by
  constructor
  · intro hping
    exact h (congrArg List.head? (Content.data.inj hping))
  · intro hpong
    exact h (congrArg List.head? (Content.data.inj hpong))

end Payload

namespace Command

variable {command : Command}

/-- **The payloads of a short command hold no closing tag**, and are no keepalives. -/
lemma rendering_safe (h : command.IsShort) (settings : CommandSettings) (number : UInt8) :
    Frame.FitsField .content (command.rendering settings number).compose ∧
      (Content.data (command.rendering settings number).compose).IsCanonical := by
  -- every payload that a command asks for begins with an `S`
  have hcanonical : (Content.data (command.rendering settings number).compose).IsCanonical := by
    apply Payload.isCanonical_data
    cases command <;> exact (by decide : some (0x53 : UInt8) ≠ some 0x41)
  refine ⟨?_, hcanonical⟩
  cases command with
  | rawWrite address data =>
    have hshort : data.length ≤ 3 := h
    have hback : ([settings.configVersion, settings.logVersion] ++ Octets.ofWord address ++
        data).length < Frame.closeTagLength := by
      show data.length + 4 < 8
      omega
    exact Payload.fitsField_pack rfl hback (by decide) (by decide)
  | modeWrite mode => exact Frame.fitsField_of_length_lt (show 7 < 8 by omega)
  | keyPress key =>
    have hback : [key].length < Frame.closeTagLength := show 1 < 8 by omega
    exact Payload.fitsField_pack rfl hback (by decide) (by decide)

end Command

/-! ## Taking the payloads -/

namespace TranslatedCommand

/-- All that can still be taken of a command is what it asks for, under some number. -/
def Renders (settings : CommandSettings) (command : Command) (c : TranslatedCommand) : Prop :=
  match c.pending with
  | .single payload? => ∀ payload ∈ payload?, ∃ number,
      payload = (command.rendering settings number).compose
  | .presses key _ => ∀ number,
      command.rendering settings number = .pack number settings.packType (.keyPress key)

/-- What is left of a command when a translator has taken its next payload. -/
def rest (c : TranslatedCommand) (t : Translator) : TranslatedCommand := (t.nextPayload c).2.1

variable {settings : CommandSettings} {command : Command} {c : TranslatedCommand}

lemma Renders.rest (h : c.Renders settings command) (t : Translator) :
    (c.rest t).Renders settings command := by
  obtain ⟨payload? | ⟨key, n⟩, spacing⟩ := c
  · intro payload hnone
    cases hnone
  · by_cases hn : n = 0
    · simpa [TranslatedCommand.rest, Translator.nextPayload, hn] using h
    · simpa [TranslatedCommand.rest, Translator.nextPayload, hn, Renders] using h

lemma Renders.rests (h : c.Renders settings command) (takers : List Translator) :
    (takers.foldl TranslatedCommand.rest c).Renders settings command := by
  induction takers generalizing c with
  | nil => exact h
  | cons t takers ih => exact ih (h.rest t)

/-- What a translator takes of a command that renders another is a rendering of it. -/
lemma Renders.of_mem_drain (h : c.Renders settings command) {t : Translator}
    (ht : t.settings = settings) {payload : Octets} (hpayload : payload ∈ (t.drain c).1) :
    ∃ number, payload = (command.rendering settings number).compose := by
  obtain ⟨payload? | ⟨key, n⟩, spacing⟩ := c
  · exact h payload (Option.mem_toList.1 hpayload)
  · have hpresses : payload ∈ (t.packPresses key n.toNat).1 := hpayload
    rw [Translator.packPresses_eq] at hpresses
    obtain ⟨i, -, rfl⟩ := List.mem_map.1 hpresses
    refine ⟨t.seq + i.toUInt8, ?_⟩
    rw [h, ht]

end TranslatedCommand

namespace Translator

variable {t t' : Translator} {command : Command} {translated : TranslatedCommand}

/-- An accepted command becomes one that renders it. -/
lemma renders_of_translate (h : t.translate command = .ok (translated, t')) :
    translated.Renders t.settings command := by
  obtain ⟨-, hrender⟩ := t.translate_eq_ok_iff.1 h
  cases command with
  | rawWrite | modeWrite =>
    obtain ⟨rfl, -⟩ := Prod.mk.inj hrender
    intro payload hpayload
    exact ⟨t.seq, (Option.some.inj hpayload).symm⟩
  | keyPress key count =>
    obtain ⟨rfl, -⟩ := Prod.mk.inj hrender
    intro number
    rfl

/-- **Short commands arrive as they were meant.**  Take an accepted command that writes no more than
three octets, and an authorized session whose key and peer fit their fields.  Whatever payloads have
been taken of the command before, and whatever numbers have been drawn meanwhile, each payload that
is taken now is wrapped into a package that is read back from its frame, and is read as what the
command asks for. -/
theorem conveyed_of_short (haccepted : t.translate command = .ok (translated, t'))
    (hshort : command.IsShort) {s : Session} (hphase : s.phase = .authorized)
    (hkey : Frame.FitsField .source s.key)
    (hpeer : ∀ peer ∈ s.peer, Frame.FitsField .destination peer)
    (takers : List Translator) {taker : Translator} (htaker : taker.settings = t.settings) :
    ∀ payload ∈ (taker.drain (takers.foldl TranslatedCommand.rest translated)).1,
      let package := Package.authorized (some s.key) s.peer (.data payload)
      s.frame? (.data payload) = some package ∧
        Frame.decodeDatagram (Frame.encode package) = .ok package ∧
        ∃ number, Payload.parse? payload = some (command.rendering t.settings number) := by
  intro payload hpayload package
  have hrenders := (renders_of_translate haccepted).rests takers
  obtain ⟨number, rfl⟩ := hrenders.of_mem_drain htaker hpayload
  obtain ⟨hcontent, hcanonical⟩ := command.rendering_safe hshort t.settings number
  refine ⟨if_pos hphase, ?_, number, ?_⟩
  · rw [Frame.decodeDatagram_encode_iff]
    exact ⟨Frame.fitsField_of_mem_some hkey, hpeer, hcontent, hcanonical⟩
  · exact Payload.parse?_compose (Command.fits_rendering hshort t.settings number)

/-- Versions, address and data that together spell all of a closing tag but its end arrive. -/
theorem conveyed_of_almost_tag :
    let t : Translator :=
      { settings := { configVersion := 0x3c, logVersion := 0x2f, addresses := [⟨0x5041, .range 3⟩] }
        memorySize := 65535 }
    let command := Command.rawWrite 0x5041 [0x43, 0x4b, 0x54]
    let s := [⟨0, .start⟩, ⟨1, .handle (.hello [0x61, helloDelimiter, 0x62])⟩].foldl Session.after
      (Session.create {} [0x6b] true 0)
    let payload := (command.rendering t.settings 0).compose
    let package := Package.authorized (some [0x6b]) (some [0x61]) (.data payload)
    ∃ translated t', t.translate command = .ok (translated, t') ∧
      (t'.drain translated).1 = [payload] ∧ s.frame? (.data payload) = some package ∧
      Frame.decodeDatagram (Frame.encode package) = .ok package ∧
      ∃ number, Payload.parse? payload = some (command.rendering t.settings number) := by
  intro t command s payload package
  have haccepts : ∃ translated t', t.translate command = .ok (translated, t') ∧
      (t'.drain translated).1 = [payload] ∧ t'.settings = t.settings := ⟨_, _, rfl, rfl, rfl⟩
  obtain ⟨translated, t', haccepted, hdrained, hsettings⟩ := haccepts
  have hshort : command.IsShort := (by decide : 3 ≤ 3)
  have hphase : s.phase = .authorized := rfl
  have hkey : Frame.FitsField .source s.key := by decide
  have hpeer : ∀ peer ∈ s.peer, Frame.FitsField .destination peer := by
    intro peer hpeer
    obtain rfl : peer = [0x61] := (Option.some.inj hpeer).symm
    decide
  have hmem : payload ∈ (t'.drain translated).1 := by simp [hdrained]
  exact ⟨translated, t', haccepted, hdrained,
    conveyed_of_short haccepted hshort hphase hkey hpeer [] hsettings payload hmem⟩

/-- Four octets are enough to spell the closing tag of the package. -/
example :
    let settings : CommandSettings := { configVersion := 0x3c, logVersion := 0x2f }
    let command := Command.rawWrite 0x5041 [0x43, 0x4b, 0x54, 0x3e]
    Frame.closeTag Frame.packetName <:+: (command.rendering settings 0).compose := by
  decide

end Translator

end SpaGateway
