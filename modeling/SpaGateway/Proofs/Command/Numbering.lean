import Mathlib.Tactic
import SpaGateway.Proofs.Connection.Ledger
import SpaGateway.Proofs.History

/-!
# Sequence numbers

Everything that a translator sends is numbered from one counter, but not at the same time: writes
and mode changes draw their number when they are translated, key presses draw theirs one by one as
they are taken, and others ask for numbers of their own in between.  A `Translator.Desk` is a
translator with the commands that it accepted, which may be taken in any order and never to the end.

`Translator.numbers_eq` says that the numbers come one after the other all the same, and that the
count that a command keeps is right.  The first rests on what one call does to the counter
(`Desk.exists_drawn_eq`), the second on what it takes of a command (`Desk.takes_of_taking?`).
-/

namespace SpaGateway

namespace Translator

/-! ## Numbers in a row -/

/-- The sequence number in a payload: the octet behind its tag. -/
def number? (payload : Octets) : Option UInt8 := payload[Payload.tagLength]?

lemma number?_compose_pack (seq packType : UInt8) (action : PackAction) :
    number? (Payload.pack seq packType action).compose = some seq := rfl

lemma number?_compose_setWatercare (seq mode : UInt8) :
    number? (Payload.setWatercare seq mode).compose = some seq := rfl

lemma toUInt8_add (m n : Nat) : (m + n).toUInt8 = m.toUInt8 + n.toUInt8 := UInt8.ofNat_add m n

/-- A number of sequence numbers in a row, which wrap at 256. -/
def consecutive (seq : UInt8) (n : Nat) : List (Option UInt8) :=
  (List.range n).map fun i => some (seq + i.toUInt8)

lemma consecutive_append (seq : UInt8) (m n : Nat) :
    consecutive seq m ++ consecutive (seq + m.toUInt8) n = consecutive seq (m + n) := by
  have hshift (i : Nat) : seq + m.toUInt8 + i.toUInt8 = seq + (m + i).toUInt8 := by
    rw [UInt8.add_assoc, toUInt8_add]
  simp only [consecutive, List.range_add, List.map_append, List.map_map, Function.comp_def, hshift]

/-- A translator whose counter has moved on by a number of steps. -/
def advance (t : Translator) (n : Nat) : Translator := { t with seq := t.seq + n.toUInt8 }

@[simp] lemma advance_zero (t : Translator) : t.advance 0 = t := by simp [advance]

@[simp] lemma seq_advance (t : Translator) (n : Nat) : (t.advance n).seq = t.seq + n.toUInt8 := rfl

lemma advance_advance (t : Translator) (m n : Nat) :
    (t.advance m).advance n = t.advance (m + n) := by
  simp only [advance, UInt8.add_assoc, toUInt8_add]

/-- The next payload is all that its call takes, if there is one. -/
lemma takes_nextPayload (t : Translator) (command : TranslatedCommand) :
    command.Takes t.rules (t.nextPayload command).1.toList (t.nextPayload command).2.1 := by
  by_cases hempty : command.isEmpty = true
  · rw [t.nextPayload_of_isEmpty hempty]
    exact .nothing
  · obtain ⟨payload, left, t', hnext⟩ :=
      t.exists_nextPayload (Bool.eq_false_of_not_eq_true hempty)
    rw [hnext]
    exact TranslatedCommand.Takes.cons .nothing rfl hnext

lemma nextPayload_eq_none_iff (t : Translator) (command : TranslatedCommand) :
    (t.nextPayload command).1 = none ↔ command.remaining = 0 := by
  have hiff : command.isEmpty = true ↔ command.remaining = 0 := by
    simp [TranslatedCommand.isEmpty]
  rw [← hiff]
  by_cases hempty : command.isEmpty = true
  · simp [t.nextPayload_of_isEmpty hempty, hempty]
  · obtain ⟨payload, left, t', hnext⟩ :=
      t.exists_nextPayload (Bool.eq_false_of_not_eq_true hempty)
    simp [hnext, hempty]

/-- What an accepted command has to be taken is what it asks for. -/
lemma remaining_of_translate {t t' : Translator} {command : Command}
    {translated : TranslatedCommand} (h : t.translate command = .ok (translated, t'))
    (settings : CommandSettings) (seq : UInt8) :
    translated.remaining = (command.payloads settings seq).length := by
  obtain ⟨-, hrender⟩ := t.translate_eq_ok_iff.1 h
  cases command with
  | rawWrite | modeWrite =>
    obtain ⟨rfl, -⟩ := Prod.mk.inj hrender
    rfl
  | keyPress key count =>
    obtain ⟨rfl, -⟩ := Prod.mk.inj hrender
    rw [Command.payloads, List.length_map, List.length_range]
    rfl

/-! ## A translator at work -/

/-- A translator, and what is left of the commands that it accepted, in their order. -/
structure Desk where
  translator : Translator
  commands : List TranslatedCommand := []
  deriving DecidableEq

/-- What can be asked of a translator.  Accepted commands go by their places. -/
inductive Call where
  | nextSeq
  | translate (command : Command)
  | nextPayload (place : Nat)
  | drain (place : Nat)
  deriving DecidableEq

/-- Payloads that are taken of a command, what is left of it, and the translator after that. -/
structure Taking where
  place : Nat
  command : TranslatedCommand
  payloads : List Octets
  left : TranslatedCommand
  translator : Translator

namespace Desk

variable {desk : Desk} {call : Call} {taking : Taking}

/-- What a call takes, if it is about an accepted command. -/
def taking? (desk : Desk) : Call → Option Taking
  | .nextSeq | .translate _ => none
  | .nextPayload place => desk.commands[place]?.map fun command =>
    let (payload?, left, translator) := desk.translator.nextPayload command
    { place, command, payloads := payload?.toList, left, translator }
  | .drain place => desk.commands[place]?.map fun command =>
    let (payloads, left, translator) := desk.translator.drain command
    { place, command, payloads, left, translator }

/-- The desk after payloads were taken. -/
def take (desk : Desk) (taking : Taking) : Desk :=
  { translator := taking.translator, commands := desk.commands.set taking.place taking.left }

/-- The desk after a call. -/
def after (desk : Desk) (call : Call) : Desk :=
  match call with
  | .nextSeq => { desk with translator := desk.translator.nextSeq.2 }
  | .translate command =>
    match desk.translator.translate command with
    | .error _ => desk
    | .ok (translated, translator) => { translator, commands := desk.commands ++ [translated] }
  | .nextPayload _ | .drain _ => ((desk.taking? call).map desk.take).getD desk

/-- The payloads that a call renders: a write or a mode change when it is translated, the presses of
a key when they are taken. -/
def rendered (desk : Desk) (call : Call) : List Octets :=
  match call with
  | .nextSeq => []
  | .translate command =>
    match desk.translator.translate command with
    | .ok ({ pending := .single payload?, .. }, _) => payload?.toList
    | _ => []
  | .nextPayload _ | .drain _ =>
    match desk.taking? call with
    | some { command := { pending := .presses .., .. }, payloads, .. } => payloads
    | _ => []

/-- The sequence numbers that a call draws, in their order. -/
def drawn (desk : Desk) (call : Call) : List (Option UInt8) :=
  match call with
  | .nextSeq => [some desk.translator.nextSeq.1]
  | _ => (desk.rendered call).map number?

/-- The command that a call has accepted. -/
def accepted? (desk : Desk) : Call → Option Command
  | .translate command =>
    match desk.translator.translate command with
    | .ok _ => some command
    | .error _ => none
  | _ => none

/-- The payloads that a call takes of the command at a place. -/
def taken (place : Nat) (desk : Desk) (call : Call) : List Octets :=
  match desk.taking? call with
  | some taking => if taking.place = place then taking.payloads else []
  | none => []

/-- The calls for which there is nothing to number. -/
inductive IsIdle (desk : Desk) : Call → Prop
  | rejected {command : Command} {rejection : Rejection}
      (rejected : desk.translator.translate command = .error rejection) :
      IsIdle desk (.translate command)
  | keyPress (key : UInt8) (count : UInt32) : IsIdle desk (.translate (.keyPress key count))
  | exhausted {place : Nat} {command : TranslatedCommand}
      (command_eq : desk.commands[place]? = some command) (isEmpty : command.isEmpty = true) :
      IsIdle desk (.nextPayload place)

/-! ## What one call does -/

lemma after_of_taking? (h : desk.taking? call = some taking) :
    desk.after call = desk.take taking := by
  cases call with
  | nextSeq | translate => cases h
  | nextPayload | drain => simp only [after, h, Option.map_some, Option.getD_some]

lemma after_of_taking?_eq_none {place : Nat}
    (hcall : call = .nextPayload place ∨ call = .drain place)
    (h : desk.taking? call = none) : desk.after call = desk := by
  rcases hcall with rfl | rfl <;> simp only [after, h, Option.map_none, Option.getD_none]

/-- What is taken is of a command that was accepted, and it is no more than there is. -/
lemma takes_of_taking? (h : desk.taking? call = some taking) :
    desk.commands[taking.place]? = some taking.command ∧
      taking.command.Takes desk.translator.rules taking.payloads taking.left := by
  cases call with
  | nextSeq | translate => cases h
  | nextPayload place =>
    obtain ⟨command, hcommand, rfl⟩ := Option.map_eq_some_iff.1 h
    exact ⟨hcommand, desk.translator.takes_nextPayload command⟩
  | drain place =>
    obtain ⟨command, hcommand, rfl⟩ := Option.map_eq_some_iff.1 h
    exact ⟨hcommand, (desk.translator.takes_drain command).1⟩

/-- What is rendered at once draws one number. -/
lemma exists_drawn_translate (desk : Desk) (command : Command) :
    ∃ n, desk.drawn (.translate command) = consecutive desk.translator.seq n ∧
      (desk.after (.translate command)).translator = desk.translator.advance n := by
  cases hresult : desk.translator.translate command with
  | error rejection =>
    exact ⟨0, by simp [drawn, rendered, hresult, consecutive], by simp [after, hresult]⟩
  | ok result =>
    obtain ⟨translated, t'⟩ := result
    obtain ⟨-, hrender⟩ := desk.translator.translate_eq_ok_iff.1 hresult
    cases command with
    | rawWrite | modeWrite =>
      obtain ⟨rfl, rfl⟩ := Prod.mk.inj hrender
      refine ⟨1, ?_, by simp only [after, hresult]; rfl⟩
      simp only [drawn, rendered, hresult]
      simp [consecutive, number?_compose_pack, number?_compose_setWatercare]
    | keyPress key count =>
      obtain ⟨rfl, rfl⟩ := Prod.mk.inj hrender
      exact ⟨0, by simp [drawn, rendered, hresult, consecutive], by simp [after, hresult]⟩

/-- Of what is taken, only the presses of a key draw numbers. -/
lemma exists_drawn_of_taking? (h : desk.taking? call = some taking) :
    ∃ n, desk.drawn call = consecutive desk.translator.seq n ∧
      (desk.after call).translator = desk.translator.advance n := by
  rw [after_of_taking? h, take]
  cases call with
  | nextSeq | translate => cases h
  | nextPayload place =>
    obtain ⟨⟨pending, spacing⟩, -, htaking⟩ := Option.map_eq_some_iff.1 h
    simp only [drawn, rendered, h]
    subst htaking
    cases pending with
    | single payload? => exact ⟨0, by simp [consecutive], by simp [nextPayload]⟩
    | presses key n =>
      by_cases hn : n = 0
      · exact ⟨0, by simp [nextPayload, hn, consecutive], by simp [nextPayload, hn]⟩
      · refine ⟨1, ?_, by simp only [nextPayload, if_neg hn]; rfl⟩
        simp only [nextPayload, if_neg hn, pack, nextSeq, Option.toList_some, List.map_singleton,
          number?_compose_pack]
        simp [consecutive]
  | drain place =>
    obtain ⟨⟨pending, spacing⟩, -, htaking⟩ := Option.map_eq_some_iff.1 h
    simp only [drawn, rendered, h]
    subst htaking
    cases pending with
    | single payload? => exact ⟨0, by simp [consecutive], by simp [drain]⟩
    | presses key n =>
      refine ⟨n.toNat, ?_, by simp only [drain, packPresses_eq]; rfl⟩
      simp only [drain, packPresses_eq, List.map_map, Function.comp_def, number?_compose_pack]
      rfl

/-- **What a call does to the counter.**  It draws some numbers in a row, from the one that is due,
and moves the counter past them. -/
lemma exists_drawn_eq (desk : Desk) (call : Call) :
    ∃ n, desk.drawn call = consecutive desk.translator.seq n ∧
      (desk.after call).translator = desk.translator.advance n := by
  cases htaking : desk.taking? call with
  | some taking => exact exists_drawn_of_taking? htaking
  | none =>
    cases call with
    | nextSeq => exact ⟨1, by simp [drawn, nextSeq, consecutive], rfl⟩
    | translate command => exact desk.exists_drawn_translate command
    | nextPayload place =>
      rw [after_of_taking?_eq_none (.inl rfl) htaking]
      exact ⟨0, by simp [drawn, rendered, htaking, consecutive], by simp⟩
    | drain place =>
      rw [after_of_taking?_eq_none (.inr rfl) htaking]
      exact ⟨0, by simp [drawn, rendered, htaking, consecutive], by simp⟩

lemma IsIdle.drawn_eq_nil (h : desk.IsIdle call) :
    desk.drawn call = [] ∧ (desk.after call).translator = desk.translator := by
  cases h with
  | rejected hrejected =>
    exact ⟨by simp only [drawn, rendered, hrejected, List.map_nil], by simp only [after, hrejected]⟩
  | keyPress key count =>
    cases hresult : desk.translator.translate (.keyPress key count) with
    | error rejection =>
      exact ⟨by simp only [drawn, rendered, hresult, List.map_nil], by simp only [after, hresult]⟩
    | ok result =>
      obtain ⟨translated, t'⟩ := result
      obtain ⟨rfl, rfl⟩ := Prod.mk.inj (desk.translator.translate_eq_ok_iff.1 hresult).2
      exact ⟨by simp only [drawn, rendered, hresult, List.map_nil], by simp only [after, hresult]⟩
  | exhausted hcommand hempty =>
    rename_i place command
    have htaking : desk.taking? (.nextPayload place) =
        some ⟨place, command, [], command, desk.translator⟩ := by
      rw [taking?, hcommand, Option.map_some, desk.translator.nextPayload_of_isEmpty hempty]
      rfl
    refine ⟨?_, by rw [after_of_taking? htaking, take]⟩
    simp only [drawn, rendered, htaking]
    obtain ⟨pending, spacing⟩ := command
    cases pending <;> rfl

/-! ## Runs -/

end Desk

/-- The numbers drawn over a history, in their order. -/
def numbers (history : List (Step Desk Call)) : List (Option UInt8) :=
  history.flatMap fun e => e.before.drawn e.action

/-- The commands accepted over a history, in their order. -/
def accepted (history : List (Step Desk Call)) : List Command :=
  history.filterMap fun e => e.before.accepted? e.action

/-- The payloads taken of one command over a history, in their order. -/
def takenFrom (place : Nat) (history : List (Step Desk Call)) : List Octets :=
  history.flatMap fun e => Desk.taken place e.before e.action

namespace Desk

variable {desk : Desk}

lemma exists_numbers_eq (desk : Desk) (calls : List Call) :
    ∃ n, numbers (steps after desk calls) = consecutive desk.translator.seq n ∧
      (calls.foldl after desk).translator = desk.translator.advance n := by
  induction calls generalizing desk with
  | nil => exact ⟨0, rfl, by simp⟩
  | cons call calls ih =>
    obtain ⟨m, hdrawn, hcall⟩ := desk.exists_drawn_eq call
    obtain ⟨n, hnumbers, hcalls⟩ := ih (desk.after call)
    refine ⟨m + n, ?_, by rw [List.foldl_cons, hcalls, hcall, advance_advance]⟩
    rw [hcall, seq_advance] at hnumbers
    rw [steps, numbers, List.flatMap_cons, hdrawn, ← numbers, hnumbers, consecutive_append]

/-- What a history has left of each accepted command is what the command asked for but for what was
taken. -/
structure Keeps (desk : Desk) (history : List (Step Desk Call)) : Prop where
  length_eq : desk.commands.length = (accepted history).length
  untaken : ∀ place, desk.commands.length ≤ place → takenFrom place history = []
  count : ∀ place request left, (accepted history)[place]? = some request →
    desk.commands[place]? = some left → ∀ settings seq,
      (takenFrom place history).length + left.remaining = (request.payloads settings seq).length

lemma accepted_concat (history : List (Step Desk Call)) (call : Call) :
    accepted (history ++ [⟨desk, call⟩]) = accepted history ++ (desk.accepted? call).toList := by
  rw [accepted, List.filterMap_append, ← accepted]
  cases h : desk.accepted? call <;> simp [h]

lemma takenFrom_concat (place : Nat) (history : List (Step Desk Call)) (call : Call) :
    takenFrom place (history ++ [⟨desk, call⟩]) =
      takenFrom place history ++ desk.taken place call := by
  simp [takenFrom]

namespace Keeps

variable {history : List (Step Desk Call)} {call : Call} {taking : Taking}

/-- Nothing is accepted and nothing is taken. -/
lemma of_quiet (h : desk.Keeps history) (hafter : (desk.after call).commands = desk.commands)
    (haccepted : desk.accepted? call = none) (htaking : desk.taking? call = none) :
    (desk.after call).Keeps (history ++ [⟨desk, call⟩]) := by
  have htaken (place : Nat) : desk.taken place call = [] := by simp only [taken, htaking]
  constructor <;> simp only [accepted_concat, takenFrom_concat, hafter, haccepted, htaken,
    Option.toList_none, List.append_nil]
  · exact h.length_eq
  · exact h.untaken
  · exact h.count

lemma of_taking? (h : desk.Keeps history) (htaking : desk.taking? call = some taking) :
    (desk.after call).Keeps (history ++ [⟨desk, call⟩]) := by
  obtain ⟨hcommand, htakes⟩ := takes_of_taking? htaking
  have haccepted : desk.accepted? call = none := by
    cases call with
    | nextSeq | translate => cases htaking
    | nextPayload | drain => rfl
  have htaken (place : Nat) :
      desk.taken place call = if taking.place = place then taking.payloads else [] := by
    simp only [taken, htaking]
  obtain ⟨hplace, -⟩ := List.getElem?_eq_some_iff.1 hcommand
  rw [after_of_taking? htaking, take]
  constructor <;> simp only [accepted_concat, takenFrom_concat, haccepted, htaken,
    Option.toList_none, List.append_nil, List.length_set]
  · exact h.length_eq
  · intro place hle
    rw [h.untaken place hle, if_neg (by omega), List.nil_append]
  · intro place request left hrequest hleft settings seq
    by_cases hsame : taking.place = place
    · subst hsame
      rw [List.getElem?_set_self hplace] at hleft
      obtain rfl := Option.some.inj hleft
      have hcount := h.count _ request _ hrequest hcommand settings seq
      have hone := htakes.length_add_remaining
      rw [if_pos rfl, List.length_append]
      omega
    · rw [List.getElem?_set_ne hsame] at hleft
      rw [if_neg hsame, List.append_nil]
      exact h.count place request left hrequest hleft settings seq

lemma of_translate {command : Command} {translated : TranslatedCommand} {t' : Translator}
    (h : desk.Keeps history) (hresult : desk.translator.translate command = .ok (translated, t')) :
    (desk.after (.translate command)).Keeps (history ++ [⟨desk, .translate command⟩]) := by
  have hafter : desk.after (.translate command) = ⟨t', desk.commands ++ [translated]⟩ := by
    simp only [after, hresult]
  have haccepted : desk.accepted? (.translate command) = some command := by
    simp only [accepted?, hresult]
  have htaken (place : Nat) : desk.taken place (.translate command) = [] := rfl
  rw [hafter]
  constructor <;> simp only [accepted_concat, takenFrom_concat, haccepted, htaken,
    Option.toList_some, List.append_nil, List.length_append, List.length_singleton]
  · rw [h.length_eq]
  · exact fun place hle => h.untaken place (by omega)
  · intro place request left hrequest hleft settings seq
    rcases lt_trichotomy place desk.commands.length with hlt | rfl | hgt
    · rw [List.getElem?_append_left hlt] at hleft
      rw [List.getElem?_append_left (h.length_eq ▸ hlt)] at hrequest
      exact h.count place request left hrequest hleft settings seq
    · rw [List.getElem?_concat_length] at hleft
      rw [h.length_eq, List.getElem?_concat_length] at hrequest
      obtain rfl := Option.some.inj hleft
      obtain rfl := Option.some.inj hrequest
      rw [h.untaken _ le_rfl, List.length_nil, Nat.zero_add]
      exact remaining_of_translate hresult settings seq
    · rw [List.getElem?_eq_none (by simp; omega)] at hleft
      cases hleft

/-- **What a call does to the counts.**  A new command has all that it asks for to be taken, and
what is taken of a command is missing from what it has left. -/
lemma after (h : desk.Keeps history) (call : Call) :
    (desk.after call).Keeps (history ++ [⟨desk, call⟩]) := by
  cases htaking : desk.taking? call with
  | some taking => exact h.of_taking? htaking
  | none =>
    cases call with
    | nextSeq => exact h.of_quiet rfl rfl rfl
    | translate command =>
      cases hresult : desk.translator.translate command with
      | error rejection =>
        have hsame : desk.after (.translate command) = desk := by simp only [Desk.after, hresult]
        exact h.of_quiet (by rw [hsame]) (by simp only [accepted?, hresult]) rfl
      | ok result => exact h.of_translate hresult
    | nextPayload place =>
      exact h.of_quiet (by rw [after_of_taking?_eq_none (.inl rfl) htaking]) rfl htaking
    | drain place =>
      exact h.of_quiet (by rw [after_of_taking?_eq_none (.inr rfl) htaking]) rfl htaking

end Keeps

lemma keeps_steps (t : Translator) (calls : List Call) :
    (calls.foldl after { translator := t }).Keeps (steps after { translator := t } calls) := by
  induction calls using List.reverseRecOn with
  | nil =>
    refine ⟨rfl, fun place _ => rfl, fun place request left hrequest => ?_⟩
    cases hrequest
  | append_singleton calls call ih =>
    rw [steps_concat, List.foldl_append]
    exact ih.after call

end Desk

/-- **Sequence numbers are handed out without gap or reuse.**  Whatever a new translator is asked
for, and however the commands that it accepted are taken, the numbers drawn count up from zero and
wrap at 256; calls that have nothing to number draw none.  What a command says that it has left is
what it asked for but for what was taken, and just that can still be taken. -/
theorem numbers_eq (settings : CommandSettings) (memorySize : Nat) (calls : List Call) :
    let opening : Desk := { translator := { settings, memorySize } }
    let history := steps Desk.after opening calls
    let desk := calls.foldl Desk.after opening
    (∃ n, numbers history = (List.range n).map (fun i => some (i % 256).toUInt8) ∧
        desk.translator = { settings, memorySize, seq := (n % 256).toUInt8 }) ∧
      (∀ call, desk.IsIdle call →
        desk.drawn call = [] ∧ (desk.after call).translator = desk.translator) ∧
      ∀ place left, desk.commands[place]? = some left →
        (∃ request, (accepted history)[place]? = some request ∧
          (takenFrom place history).length + left.remaining =
            (request.payloads settings 0).length) ∧
        (desk.translator.drain left).1.length = left.remaining ∧
        ((desk.translator.nextPayload left).1 = none ↔ left.remaining = 0) := by
  intro opening history desk
  refine ⟨?_, fun call hidle => hidle.drawn_eq_nil, fun place left hleft => ⟨?_, ?_, ?_⟩⟩
  · obtain ⟨n, hnumbers, htranslator⟩ := opening.exists_numbers_eq calls
    have hwrap (i : Nat) : (0 : UInt8) + i.toUInt8 = (i % 256).toUInt8 := by
      rw [UInt8.zero_add]
      exact (UInt8.ofNat_mod_size).symm
    refine ⟨n, ?_, ?_⟩
    · rw [hnumbers]
      exact List.map_congr_left fun i _ => congrArg some (hwrap i)
    · rw [← hwrap]
      exact htranslator
  · have hkeeps := Desk.keeps_steps opening.translator calls
    obtain ⟨hplace, -⟩ := List.getElem?_eq_some_iff.1 hleft
    have hrequest := List.getElem?_eq_getElem (hkeeps.length_eq ▸ hplace)
    exact ⟨_, hrequest, hkeeps.count place _ left hrequest hleft settings 0⟩
  · obtain ⟨htakes, hdone⟩ := desk.translator.takes_drain left
    have hnone : (desk.translator.drain left).2.1.remaining = 0 := by
      simpa [TranslatedCommand.isEmpty] using hdone
    rw [← htakes.length_add_remaining, hnone, Nat.add_zero]
  · exact desk.translator.nextPayload_eq_none_iff left

/-- A mode change has its number before the presses that were asked for first. -/
example :
    numbers (steps Desk.after { translator := { settings := {}, memorySize := 4 } }
      [.translate (.keyPress 7 2), .translate (.modeWrite 1), .translate (.modeWrite 9), .nextSeq,
        .nextPayload 0, .nextPayload 1, .drain 0, .nextPayload 0]) =
      [some 0, some 1, some 2, some 3] := by
  decide

end Translator

end SpaGateway
