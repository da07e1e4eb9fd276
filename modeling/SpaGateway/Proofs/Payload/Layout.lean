import Mathlib.Tactic
import SpaGateway.Payload.Parser

/-!
# The layout of payloads

A payload is read back from the octets that it is written as, if its lengths and counts fit the
octets that announce them (`Payload.parse?_compose`).  If one does not fit, the octet announces less
than is written; the reader then finds octets left over and yields nothing, so what was written is
not mistaken for another payload either (`Payload.parse?_compose_of_not_fits`).
-/

namespace SpaGateway

open Octets

/-! ## Fields -/

lemma Octets.toWord_ofWord (w : UInt16) : toWord (w >>> 8).toUInt8 w.toUInt8 = w := by
  have hlow : w.toNat % 256 < 2 ^ 8 := Nat.mod_lt _ (by decide)
  have hbound := w.toNat_lt
  have hhigh : w.toNat >>> 8 % 256 = w.toNat / 256 := by
    rw [Nat.shiftRight_eq_div_pow]
    omega
  have hnat : (w.toNat / 256) <<< 8 % 65536 ||| w.toNat % 256 = w.toNat := by
    rw [Nat.mod_eq_of_lt, ← Nat.shiftLeft_add_eq_or_of_lt hlow, Nat.shiftLeft_eq] <;> omega
  apply UInt16.toNat_inj.1
  simpa [toWord, hhigh] using hnat

lemma Octets.takeExactly?_append (a b : Octets) : takeExactly? a.length (a ++ b) = some (a, b) := by
  simp [takeExactly?]

/-- What announces less than there is leaves something over. -/
lemma Octets.takeExactly?_of_lt {n : Nat} {s : Octets} (h : n < s.length) :
    ∃ a rest, takeExactly? n s = some (a, rest) ∧ rest ≠ [] := by
  refine ⟨s.take n, s.drop n, if_pos h.le, ?_⟩
  rw [ne_eq, List.drop_eq_nil_iff]
  omega

lemma PackAction.parse?_compose (action : PackAction) : parse? action.compose = some action := by
  cases action with
  | keyPress key => rfl
  | set configVersion logVersion position data =>
    have hread : parse? (set configVersion logVersion position data).compose =
        some (.set configVersion logVersion
          (toWord (position >>> 8).toUInt8 position.toUInt8) data) := rfl
    rw [hread, toWord_ofWord]

lemma StatusChange.takeMany?_append (changes : List StatusChange) (s : Octets) :
    takeMany? changes.length (changes.flatMap compose ++ s) = some (changes, s) := by
  induction changes with
  | nil => rfl
  | cons change changes ih =>
    have hread : takeMany? (change :: changes).length
        ((change :: changes).flatMap compose ++ s) =
          (takeMany? changes.length (changes.flatMap compose ++ s)).bind fun read =>
            some ({ change with
              position := toWord (change.position >>> 8).toUInt8 change.position.toUInt8 } ::
                read.1, read.2) := by
      rw [List.flatMap_cons, List.append_assoc]
      rfl
    rw [hread, ih, Option.bind_some, toWord_ofWord]

namespace Payload

lemma toNat_lengthOctet (n : Nat) : (lengthOctet n).toNat = n % 256 := rfl

lemma toNat_lengthOctet_of_le {n : Nat} (h : n ≤ 255) : (lengthOctet n).toNat = n :=
  (toNat_lengthOctet n).trans (Nat.mod_eq_of_lt (by omega))

/-! ## Bodies

What follows a tag is read field by field; the tags differ. -/

lemma parse?_append {tag : Octets} (htag : tag.length = tagLength) (body : Octets) :
    parse? (tag ++ body) = match parseBody? tag body with
      | some (payload, []) => some payload
      | _ => none := by
  have htake : takeExactly? tagLength (tag ++ body) = some (tag, body) := by
    rw [← htag]
    exact takeExactly?_append tag body
  unfold parse?
  exact htake ▸ rfl

lemma parseBody?_statusChunk (seq next length : UInt8) (s : Octets) :
    parseBody? statusChunkTag ([seq, next, length] ++ s) =
      (takeExactly? length.toNat s).bind fun (data, s) => some (statusChunk seq next data, s) := rfl

lemma parseBody?_statusPush (count : UInt8) (s : Octets) :
    parseBody? statusPushTag ([count] ++ s) =
      (StatusChange.takeMany? count.toNat s).bind fun (changes, s) =>
        some (statusPush changes, s) := rfl

lemma parseBody?_pack (seq packType length : UInt8) (s : Octets) :
    parseBody? packTag ([seq, packType, length] ++ s) =
      (takeExactly? length.toNat s).bind fun (bytes, s) =>
        (PackAction.parse? bytes).bind fun action => some (pack seq packType action, s) := rfl

/-! ## Payloads -/

lemma length_compose_action (action : PackAction) : action.compose.length =
    match action with
    | .keyPress _ => 2
    | .set _ _ _ data => 5 + data.length := by
  cases action <;> simp [PackAction.compose, ofWord]
  omega

lemma fits_pack_iff {seq packType : UInt8} {action : PackAction} :
    (pack seq packType action).Fits ↔ action.compose.length ≤ 255 := by
  rw [length_compose_action]
  cases action with
  | keyPress key => simp [Fits]
  | set configVersion logVersion position data =>
    simp only [Fits]
    omega

/-- **A payload that fits is read back.** -/
theorem parse?_compose {d : Payload} (h : d.Fits) : parse? d.compose = some d := by
  cases d with
  | versionQuery seq | statusAck seq | setWatercare seq mode => rfl
  | version v =>
    have hread : parse? (version v).compose = some (version { v with
        enBuild := toWord (v.enBuild >>> 8).toUInt8 v.enBuild.toUInt8
        coBuild := toWord (v.coBuild >>> 8).toUInt8 v.coBuild.toUInt8 }) := rfl
    rw [hread, toWord_ofWord, toWord_ofWord]
  | statusRequest seq start length =>
    have hread : parse? (statusRequest seq start length).compose =
        some (statusRequest seq (toWord (start >>> 8).toUInt8 start.toUInt8)
          (toWord (length >>> 8).toUInt8 length.toUInt8)) := rfl
    rw [hread, toWord_ofWord, toWord_ofWord]
  | statusChunk seq next data =>
    have htake := takeExactly?_append data []
    rw [List.append_nil] at htake
    rw [compose, List.append_assoc, parse?_append rfl, parseBody?_statusChunk,
      toNat_lengthOctet_of_le h, htake]
    rfl
  | statusPush changes =>
    have htake := StatusChange.takeMany?_append changes []
    rw [List.append_nil] at htake
    rw [compose, List.append_assoc, parse?_append rfl, parseBody?_statusPush,
      toNat_lengthOctet_of_le h, htake]
    rfl
  | pack seq packType action =>
    have htake := takeExactly?_append action.compose []
    rw [List.append_nil] at htake
    rw [compose, List.append_assoc, parse?_append rfl, parseBody?_pack,
      toNat_lengthOctet_of_le (fits_pack_iff.1 h), htake]
    simp [action.parse?_compose]

/-- **A payload that does not fit is not read at all.** -/
theorem parse?_compose_of_not_fits {d : Payload} (h : ¬ d.Fits) : parse? d.compose = none := by
  -- an octet announces less than what it stands for, once that is more than 255
  have hless {n : Nat} (hn : ¬ n ≤ 255) : (lengthOctet n).toNat < n := by
    rw [toNat_lengthOctet]
    omega
  cases d with
  | versionQuery | version | statusRequest | statusAck | setWatercare => exact (h trivial).elim
  | statusChunk seq next data =>
    obtain ⟨a, rest, htake, hrest⟩ := takeExactly?_of_lt (hless h)
    rw [compose, List.append_assoc, parse?_append rfl, parseBody?_statusChunk, htake]
    cases rest with
    | nil => contradiction
    | cons => rfl
  | statusPush changes =>
    have hn := hless h
    set n := (lengthOctet changes.length).toNat with hdef
    have htake := StatusChange.takeMany?_append (changes.take n) ((changes.drop n).flatMap
      StatusChange.compose)
    rw [← List.flatMap_append, List.take_append_drop, List.length_take_of_le hn.le] at htake
    rw [compose, List.append_assoc, parse?_append rfl, parseBody?_statusPush, ← hdef, htake]
    cases hdrop : changes.drop n with
    | nil =>
      rw [List.drop_eq_nil_iff] at hdrop
      omega
    | cons => rfl
  | pack seq packType action =>
    obtain ⟨bytes, rest, htake, hrest⟩ := takeExactly?_of_lt (hless (mt fits_pack_iff.2 h))
    rw [compose, List.append_assoc, parse?_append rfl, parseBody?_pack, htake]
    cases rest with
    | nil => contradiction
    | cons => cases hparse : PackAction.parse? bytes <;> simp [hparse]

/-- So a question about what is read is one about the payload itself, unless that does not fit and
the answer is yes. -/
lemma any_parse?_compose {p : Payload → Bool} {d : Payload} (h : ¬ d.Fits → p d = false) :
    (parse? d.compose).any p = p d := by
  by_cases hfits : d.Fits
  · rw [parse?_compose hfits, Option.any_some]
  · rw [parse?_compose_of_not_fits hfits, Option.any_none, h hfits]

end Payload

end SpaGateway
