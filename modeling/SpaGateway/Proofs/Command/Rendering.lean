import Mathlib.Tactic
import SpaGateway.Connection.Host
import SpaGateway.Proofs.Payload.Layout

/-!
# What commands are rendered as

`Command.payloads` says which payloads a command asks for.  A translator renders an accepted command
as just these, numbered from its counter on, and nothing is left when they have been taken
(`Translator.drain_of_translate`).  They can be read back, with one exception: the length of a write
stands in one octet, and a declared width may ask for more octets than that can announce
(`Translator.rendered_faithfully_iff`).
-/

namespace SpaGateway

namespace Command

/-- The payloads that a command asks for, from a sequence number on. -/
def payloads (settings : CommandSettings) (seq : UInt8) : Command → List Payload
  | rawWrite address data =>
    [.pack seq settings.packType
      (.set settings.configVersion settings.logVersion address data)]
  | modeWrite mode => [.setWatercare seq mode]
  | keyPress key count => (List.range count.toNat).map fun i =>
    .pack (seq + i.toUInt8) settings.packType (.keyPress key)

/-- Whether the payloads of a command fit their layout. -/
def FitsLayout : Command → Prop
  | rawWrite _ data => data.length ≤ 250
  | _ => True

lemma fits_of_mem_payloads {command : Command} (h : command.FitsLayout)
    {settings : CommandSettings} {seq : UInt8} :
    ∀ d ∈ command.payloads settings seq, d.Fits := by
  intro d hd
  cases command with
  | rawWrite address data =>
    obtain rfl := List.mem_singleton.1 hd
    exact h
  | modeWrite mode =>
    obtain rfl := List.mem_singleton.1 hd
    trivial
  | keyPress key count =>
    obtain ⟨i, -, rfl⟩ := List.mem_map.1 hd
    trivial

/-- The payloads of a command are read back exactly if they fit. -/
lemma map_parse?_payloads_iff (command : Command) (settings : CommandSettings) (seq : UInt8) :
    ((command.payloads settings seq).map Payload.compose).map Payload.parse? =
      (command.payloads settings seq).map some ↔ command.FitsLayout := by
  rw [List.map_map]
  constructor
  · intro hread
    cases command with
    | rawWrite address data =>
      by_contra hlong
      have hnone : Payload.parse? (Payload.pack seq settings.packType
          (.set settings.configVersion settings.logVersion address data)).compose = none :=
        Payload.parse?_compose_of_not_fits hlong
      simp [payloads, hnone] at hread
    | modeWrite | keyPress => trivial
  · intro hfits
    exact List.map_congr_left fun d hd => Payload.parse?_compose (fits_of_mem_payloads hfits d hd)

end Command

namespace Translator

variable (t : Translator)

/-! ## Taking payloads -/

/-- The count of presses goes down without wrapping. -/
lemma toNat_pred_add_one {n : UInt32} (hn : n ≠ 0) : (n - 1).toNat + 1 = n.toNat := by
  have hpos : n.toNat ≠ 0 := fun h => hn (UInt32.toNat_inj.1 h)
  have hone : 1 ≤ n.toNat := by omega
  rw [UInt32.toNat_sub_of_le n 1 (UInt32.le_iff_toNat_le.2 hone)]
  exact Nat.sub_add_cancel hone

/-- To drain a command is to take its payloads one by one. -/
lemma drain_eq (command : TranslatedCommand) :
    t.drain command =
      match t.nextPayload command with
      | (none, command, t) => ([], command, t)
      | (some payload, command, t) =>
        let (payloads, command, t) := t.drain command
        (payload :: payloads, command, t) := by
  obtain ⟨payload? | ⟨key, n⟩, spacing⟩ := command
  · cases payload? <;> rfl
  · by_cases hn : n = 0
    · subst hn
      rfl
    · simp only [nextPayload, if_neg hn, drain, ← toNat_pred_add_one hn, packPresses]

lemma packPresses_eq (key : UInt8) (n : Nat) :
    t.packPresses key n =
      ((List.range n).map fun i =>
        (Payload.pack (t.seq + i.toUInt8) t.settings.packType (.keyPress key)).compose,
        { t with seq := t.seq + n.toUInt8 }) := by
  induction n generalizing t with
  | zero => simp [packPresses]
  | succ n ih =>
    have hseq (i : Nat) : t.seq + 1 + i.toUInt8 = t.seq + (i + 1).toUInt8 := by
      rw [show (i + 1).toUInt8 = i.toUInt8 + 1 from UInt8.ofNat_add i 1, UInt8.add_assoc,
        UInt8.add_comm 1]
    have hpack : t.packPresses key (n + 1) =
        ((Payload.pack t.seq t.settings.packType (.keyPress key)).compose ::
          (packPresses { t with seq := t.seq + 1 } key n).1,
          (packPresses { t with seq := t.seq + 1 } key n).2) := rfl
    rw [hpack, ih, List.range_succ_eq_map, List.map_cons, List.map_map]
    simp only [hseq, Function.comp_def, Nat.succ_eq_add_one]
    simp

lemma translate_eq_ok_iff {command : Command} {translated : TranslatedCommand} {t' : Translator} :
    t.translate command = .ok (translated, t') ↔
      t.validate command = .ok () ∧ t.render command = (translated, t') := by
  rw [translate]
  cases t.validate command <;> simp [bind, Except.bind, pure, Except.pure]

/-- **What an accepted command is rendered as.**  Drained at once it yields its payloads, numbered
from the translator's counter on, and nothing is left. -/
theorem drain_of_translate {command : Command} {translated : TranslatedCommand} {t' : Translator}
    (h : t.translate command = .ok (translated, t')) :
    (t'.drain translated).1 = (command.payloads t.settings t.seq).map Payload.compose ∧
      (t'.drain translated).2.1.remaining = 0 := by
  obtain ⟨-, hrender⟩ := t.translate_eq_ok_iff.1 h
  cases command with
  | rawWrite | modeWrite =>
    obtain ⟨rfl, rfl⟩ := Prod.mk.inj hrender
    exact ⟨rfl, rfl⟩
  | keyPress key count =>
    obtain ⟨rfl, rfl⟩ := Prod.mk.inj hrender
    refine ⟨?_, rfl⟩
    simp only [drain, packPresses_eq, Command.payloads, List.map_map]
    rfl

end Translator

/-- A refused command draws no sequence number and sends nothing; it is answered, that is all. -/
lemma Host.submit_of_rejected {h : Host} {command : Command} {rejection : Rejection}
    (hrejected : h.connection.translator.translate command = .error rejection) :
    h.submit command = { h with
      tickets := h.tickets + 1
      log := h.log ++ [.answer h.tickets (some (.rejected rejection))] } := by
  rw [submit]
  dsimp only
  rw [hrejected]
  rfl

namespace Translator

/-- **When an accepted command is rendered faithfully.**  An accepted command yields its payloads
and nothing is left of it; they are read back as what was asked for exactly if they fit their
layout, which a write of more than 250 octets does not: then what is sent cannot be read at all.
A refused command changes nothing but that its ticket is answered. -/
theorem rendered_faithfully_iff (t : Translator) (command : Command) :
    (∀ translated t', t.translate command = .ok (translated, t') →
      ((t'.drain translated).1.map Payload.parse? =
          (command.payloads t.settings t.seq).map some ↔ command.FitsLayout) ∧
        (¬ command.FitsLayout → (t'.drain translated).1.map Payload.parse? = [none]) ∧
        (t'.drain translated).2.1.remaining = 0) ∧
      ∀ rejection, t.translate command = .error rejection → ∀ h : Host,
        h.connection.translator = t → h.submit command = { h with
          tickets := h.tickets + 1
          log := h.log ++ [.answer h.tickets (some (.rejected rejection))] } := by
  constructor
  · intro translated t' haccepted
    obtain ⟨hpayloads, hremaining⟩ := t.drain_of_translate haccepted
    rw [hpayloads]
    refine ⟨command.map_parse?_payloads_iff _ _, fun hlong => ?_, hremaining⟩
    cases command with
    | rawWrite address data =>
      exact congrArg (fun read => [read]) (Payload.parse?_compose_of_not_fits hlong)
    | modeWrite | keyPress => exact (hlong trivial).elim
  · intro rejection hrejected h ht
    rw [← ht] at hrejected
    exact Host.submit_of_rejected hrejected

/-- A write of two octets is rendered, and an empty one is refused. -/
theorem rendered_faithfully_of_short_write :
    let t : Translator := { settings := {}, memorySize := 4 }
    ∃ c, Connection.create { memorySize := some 4 } [] 0 = .ok c ∧ c.translator = t ∧
      (∃ translated t', t.translate (.rawWrite 1 [2, 3]) = .ok (translated, t') ∧
        (t'.drain translated).1.map Payload.parse? = [some (.pack 0 10 (.set 0 0 1 [2, 3]))]) ∧
      (Host.submit { connection := c, keys := fun _ => [] } (.rawWrite 1 [])).log =
        [.answer 0 (some (.rejected .emptyWrite))] := by
  intro t
  refine ⟨_, rfl, rfl, ⟨_, _, rfl, ?_⟩, ?_⟩
  · exact ((rendered_faithfully_iff t (.rawWrite 1 [2, 3])).1 _ _ rfl).1.2 (by decide : 2 ≤ 250)
  · rw [(rendered_faithfully_iff t (.rawWrite 1 [])).2 .emptyWrite rfl _ rfl]
    rfl

/-- A write of 251 octets to an address of that width is accepted, and cannot be read. -/
theorem not_rendered_faithfully_of_long_write :
    let t : Translator :=
      { settings := { addresses := [⟨0, .range 251⟩] }, memorySize := 300 }
    let command := Command.rawWrite 0 (List.replicate 251 0)
    ∃ translated t', t.translate command = .ok (translated, t') ∧
      (t'.drain translated).1.map Payload.parse? = [none] ∧
      (t'.drain translated).1.map Payload.parse? ≠
        (command.payloads t.settings t.seq).map some := by
  intro t command
  have hlength : (List.replicate 251 (0 : UInt8)).length = 251 := List.length_replicate
  have hlong : ¬ command.FitsLayout := by
    rw [Command.FitsLayout, hlength]
    decide
  have hvalid : t.validate command = .ok () := by
    have hwrite : List.replicate 251 (0 : UInt8) ≠ [] := List.ne_nil_of_length_eq_add_one hlength
    rw [validate, checkWrite, if_neg hwrite, hlength]
    simp [t, CommandSettings.widthAt?, List.findRev?, Width.length]
  have haccepted := t.translate_eq_ok_iff.2 ⟨hvalid, Prod.mk.eta.symm⟩
  obtain ⟨hpayloads, -⟩ := t.drain_of_translate haccepted
  refine ⟨_, _, haccepted, ?_, ?_⟩
  · rw [hpayloads]
    exact congrArg (fun read => [read]) (Payload.parse?_compose_of_not_fits hlong)
  · rw [hpayloads]
    exact mt (command.map_parse?_payloads_iff t.settings t.seq).1 hlong

end Translator

end SpaGateway
