import Mathlib.Tactic
import SpaGateway.Proofs.Frame.Field
import SpaGateway.Proofs.Session.Safety
import SpaGateway.Session.Key

/-!
# Which packages of a session can be read back

What a session sends is put into frames, and a frame is cut where a closing tag occurs.  Of the
octets in it the session makes some itself: its key, which looks like `IOS` and a UUID, and the
contents, which are keepalives and a short query.  None of these can hold a tag
(`SessionKey.IsGenerated.notMem`, `fitsField_of_mem`).  The id of the peer is another matter.  It
comes out of a hello, where nothing but the end of a hello and a delimiter is kept from it, and it
goes into a field, where other tags count.

So a hello that a session sends can always be read back, and any other package can be exactly if the
id that the peer has given fits its field (`readable_iff_of_run`).  A peer whose id spells tags
makes the session send a package that is read as another one (`query_misread_of_peer_with_tags`).
-/

namespace SpaGateway

/-! ## Generated keys -/

namespace SessionKey

/-- A key that is made of sixteen random octets. -/
def IsGenerated (key : Octets) : Prop :=
  ∃ random : Octets, random.length = 16 ∧ key = ofRandom random

/-- The usual spelling has hexadecimal digits and hyphens only. -/
lemma eq_or_exists_of_mem_spell {uuid : Octets} {c : Char} (hc : c ∈ spell uuid) :
    c = '-' ∨ ∃ n < 16, c = Octets.hexDigit n := by
  obtain ⟨group, hgroup, hc⟩ := List.mem_flatten.1 hc
  obtain ⟨i, hi, rfl⟩ := List.mem_mapIdx.1 hgroup
  rcases List.mem_append.1 hc with hhyphen | hpair
  · left
    split at hhyphen
    · exact List.mem_singleton.1 hhyphen
    · cases hhyphen
  · right
    have hlt := uuid[i].toNat_lt
    rcases List.mem_pair.1 hpair with rfl | rfl
    · exact ⟨uuid[i].toNat / 16, by omega, rfl⟩
    · exact ⟨uuid[i].toNat % 16, by omega, rfl⟩

/-- No tag begins inside a generated key. -/
lemma IsGenerated.notMem {key : Octets} (h : IsGenerated key) : Frame.tagStart ∉ key := by
  obtain ⟨random, -, rfl⟩ := h
  have hdigit : ∀ n < 16, (Octets.hexDigit n).toUInt8 ≠ Frame.tagStart := by decide
  intro hmem
  rcases List.mem_append.1 hmem with hfamily | hspelled
  · revert hfamily
    decide
  · obtain ⟨c, hc, hstart⟩ := List.mem_map.1 hspelled
    rcases eq_or_exists_of_mem_spell hc with rfl | ⟨n, hn, rfl⟩
    · revert hstart
      decide
    · exact hdigit n hn hstart

end SessionKey

/-- The key that a call brings for the next session. -/
def SessionCall.fresh? : SessionCall → Option Octets
  | poll fresh => some fresh
  | _ => none

namespace Session

open SessionKey (IsGenerated)

variable {s s' : Session} {now : Nat} {call : SessionCall} {outputs : List SessionOutput}

/-! ## What the session makes itself -/

/-- A session keeps its key or takes the fresh one. -/
lemma Move.key_mem (hmove : s.Move now call s' outputs) :
    s'.key = s.key ∨ s'.key ∈ call.fresh? := by
  cases hmove with
  | @timeOut fresh | @fallSilent fresh =>
    by_cases hpinned : s.pinned = true
    · exact .inl (if_pos hpinned)
    · refine .inr ?_
      show some fresh = some _
      exact congrArg some (if_neg hpinned).symm
  | ignore | start | welcome | reject | accept | ping | close => exact .inl rfl

/-- The key of a run is generated if all of its keys were. -/
lemma isGenerated_key_run (hkey : IsGenerated s.key) {events : List Event}
    (hfresh : ∀ e ∈ events, ∀ fresh ∈ e.call.fresh?, IsGenerated fresh) :
    IsGenerated (events.foldl after s).key := by
  induction events generalizing s with
  | nil => exact hkey
  | cons e events ih =>
    obtain ⟨hfirst, hrest⟩ := List.forall_mem_cons.1 hfresh
    apply ih _ hrest
    have hmove : s.Move e.now e.call (s.after e) (s.outputs e) := move_perform e.call
    rcases hmove.key_mem with hsame | hnew
    · rw [hsame]
      exact hkey
    · exact hfirst _ hnew

/-- The report of a failed handshake sends nothing. -/
lemma transmit_notMem_unreachableReport (s : Session) (package : Package) :
    .transmit package ∉ s.unreachableReport := by
  unfold unreachableReport
  split <;> simp

/-- A hello that is sent offers the key. -/
lemma Move.of_hello_mem (hmove : s.Move now call s' outputs) {payload : Octets}
    (hmem : .transmit (.hello payload) ∈ outputs) : payload = s'.key := by
  cases hmove with
  | ignore | close => cases hmem
  | start | fallSilent => simpa [introduced] using hmem
  | reject | welcome | ping => simp at hmem
  | @accept _ _ content => cases content <;> simp [answer] at hmem
  | timeOut => simpa [transmit_notMem_unreachableReport, introduced] using hmem

/-- What an authorized session sends of its own accord is a keepalive, or asks for versions. -/
lemma Move.content_of_mem (hmove : s.Move now call s' outputs)
    {source destination : Option Octets} {content : Content}
    (hmem : .transmit (.authorized source destination content) ∈ outputs) :
    content = .ping ∨ content = .pong ∨
      content = .data (Payload.versionQuery s.seq).compose := by
  cases hmove with
  | ignore | close => cases hmem
  | start | reject | fallSilent => simp at hmem
  | welcome =>
    obtain ⟨-, -, rfl⟩ : source = _ ∧ destination = _ ∧ content = _ := by simpa using hmem
    exact .inr (.inr rfl)
  | @accept _ _ received =>
    cases received with
    | ping =>
      obtain ⟨-, -, rfl⟩ : source = _ ∧ destination = _ ∧ content = _ := by
        simpa [answer] using hmem
      exact .inr (.inl rfl)
    | pong | data => simp [answer] at hmem
  | timeOut => simp [transmit_notMem_unreachableReport] at hmem
  | ping =>
    obtain ⟨-, -, rfl⟩ : source = _ ∧ destination = _ ∧ content = _ := by simpa using hmem
    exact .inl rfl

/-- Keepalives and queries are too short to hold a tag, and a query is no keepalive. -/
lemma Move.content_fits (hmove : s.Move now call s' outputs)
    {source destination : Option Octets} {content : Content}
    (hmem : .transmit (.authorized source destination content) ∈ outputs) :
    Frame.FitsField .content content.toOctets ∧ content.IsCanonical := by
  rcases hmove.content_of_mem hmem with rfl | rfl | rfl
  · exact ⟨Frame.fitsField_of_length_lt (by decide), by decide⟩
  · exact ⟨Frame.fitsField_of_length_lt (by decide), by decide⟩
  · refine ⟨Frame.fitsField_of_length_lt (show 6 < 8 by omega), ?_, ?_⟩
    · intro hping
      have hlength := congrArg List.length (Content.data.inj hping)
      exact absurd hlength (show 6 ≠ 5 by omega)
    · intro hpong
      have hsecond := congrArg (List.take 2) (Content.data.inj hpong)
      exact absurd hsecond (show Octets.ofChars ['A', 'V'] ≠ Octets.ofChars ['A', 'P'] by decide)

/-! ## What comes from elsewhere -/

/-- A package that is sent can be read back exactly if its destination fits. -/
lemma Move.readable_iff (hmove : s.Move now call s' outputs) (hkey : IsGenerated s'.key)
    {package : Package} (hmem : .transmit package ∈ outputs) :
    Frame.decodeDatagram (Frame.encode package) = .ok package ↔
      ∀ destination ∈ package.destination?, Frame.FitsField .destination destination := by
  rw [Frame.decodeDatagram_encode_iff]
  cases package with
  | hello payload =>
    obtain rfl := hmove.of_hello_mem hmem
    constructor
    · intro _ destination hnone
      cases hnone
    · intro _
      exact Frame.ledBy_closeTag_hello.not_infix_of_notMem hkey.notMem
  | authorized source destination content =>
    obtain ⟨-, rfl, -⟩ := hmove.of_authorized_mem hmem
    have hsource : Frame.FitsField .source s'.key := Frame.fitsField_of_notMem hkey.notMem
    constructor
    · rintro ⟨-, hdestination, -⟩
      exact hdestination
    · intro hdestination
      exact ⟨Frame.fitsField_of_mem_some hsource, hdestination, hmove.content_fits hmem⟩

/-- **Which packages of a session can be read back.**  Take any run of a session whose keys are all
generated, whatever packages it is given.  A package that it sends is for the peer that welcomed it
last, by the id which that peer gave, or it is a hello, for nobody.  It is read back from its frame
exactly if that id, if there is one, fits its field. -/
theorem readable_iff_of_run (settings : SessionSettings) {key : Octets} (hkey : IsGenerated key)
    (pinned : Bool) (made : Nat) (past : List Event) (event : Event)
    (hfresh : ∀ e ∈ past ++ [event], ∀ fresh ∈ e.call.fresh?, IsGenerated fresh) :
    let s := create settings key pinned made
    ∀ package, .transmit package ∈ (past.foldl after s).outputs event →
      (package.destination? = none ↔ ∃ payload, package = .hello payload) ∧
      (∀ destination ∈ package.destination?,
        ∃ greeting ∈ (welcomes (s.history (past ++ [event]))).getLast?, destination = greeting.1) ∧
      (Frame.decodeDatagram (Frame.encode package) = .ok package ↔
        ∀ destination ∈ package.destination?, Frame.FitsField .destination destination) := by
  intro s package hmem
  have hmove : (past.foldl after s).Move event.now event.call ((past.foldl after s).after event)
      ((past.foldl after s).outputs event) := move_perform event.call
  have hfollows : Follows (s.history (past ++ [event])) ((past.foldl after s).after event) := by
    simpa using follows_run settings key pinned made (past ++ [event])
  have hgenerated : IsGenerated ((past.foldl after s).after event).key := by
    simpa using isGenerated_key_run (s := s) hkey hfresh
  have hnamed : ∀ source destination content, package = .authorized source destination content →
      ∃ greeting ∈ (welcomes (s.history (past ++ [event]))).getLast?,
        destination = some greeting.1 := by
    rintro source destination content rfl
    obtain ⟨hphase, -, rfl⟩ := hmove.of_authorized_mem hmem
    obtain ⟨greeting, hlast, hpeer, -⟩ := hfollows.named hphase
    exact ⟨greeting, hlast, hpeer⟩
  refine ⟨?_, ?_, hmove.readable_iff hgenerated hmem⟩
  · cases package with
    | hello payload => simp [Package.destination?]
    | authorized source destination content =>
      obtain ⟨greeting, -, rfl⟩ := hnamed source destination content rfl
      simp [Package.destination?]
  · intro destination hdestination
    cases package with
    | hello payload => cases hdestination
    | authorized source destination content =>
      obtain ⟨greeting, hlast, rfl⟩ := hnamed source destination content rfl
      exact ⟨greeting, hlast, (Option.some.inj hdestination).symm⟩

/-- After a handshake that timed out, the query for the versions goes out under the next key, to the
peer that welcomed the session, and it is read back. -/
theorem readable_query_after_timeout :
    let key := SessionKey.ofRandom (List.replicate 16 0)
    let fresh := SessionKey.ofRandom (List.replicate 16 1)
    let past : List Event := [⟨0, .start⟩, ⟨10000, .poll fresh⟩]
    let event : Event := ⟨10001, .handle (.hello [0x61, helloDelimiter, 0x62])⟩
    let query := Package.authorized (some fresh) (some [0x61])
      (.data (Payload.versionQuery 0).compose)
    .transmit query ∈ (past.foldl after (create {} key false 0)).outputs event ∧
      Frame.decodeDatagram (Frame.encode query) = .ok query := by
  intro key fresh past event query
  have hfresh : ∀ e ∈ past ++ [event], ∀ fresh ∈ e.call.fresh?, IsGenerated fresh := by
    intro e he key hkey
    obtain rfl : key = fresh := by
      fin_cases he
      · cases hkey
      · exact (Option.some.inj hkey).symm
      · cases hkey
    exact ⟨List.replicate 16 1, rfl, rfl⟩
  have hsent : .transmit query ∈ (past.foldl after (create {} key false 0)).outputs event := by
    decide +kernel
  have hkey : IsGenerated key := ⟨List.replicate 16 0, rfl, rfl⟩
  obtain ⟨-, -, hreadable⟩ := readable_iff_of_run {} hkey false 0 past event hfresh query hsent
  refine ⟨hsent, hreadable.2 ?_⟩
  intro destination hdestination
  obtain rfl := Option.some.inj hdestination
  exact Frame.fitsField_of_length_lt (by decide)

/-- **A peer whose id spells tags makes the session send what is read as another package.**  Its
hello can be read, and names it up to the delimiter; but the reader of the query that the session
then sends takes the peer to be `x`, and the rest of the id to be a part of the content. -/
theorem query_misread_of_peer_with_tags :
    let key := SessionKey.ofRandom (List.replicate 16 0)
    let tags := Frame.closeTag Frame.Field.destination.name ++
      Frame.openTag Frame.Field.content.name
    let peer := [0x78] ++ tags ++ [0x79]
    let greeting := Package.hello (peer ++ helloDelimiter :: [0x6e])
    let query := (Payload.versionQuery 0).compose
    let sent := Package.authorized (some key) (some peer) (.data query)
    let read := Package.authorized (some key) (some [0x78]) (.data ([0x79] ++ tags ++ query))
    IsGenerated key ∧ Frame.decodeDatagram (Frame.encode greeting) = .ok greeting ∧
      .transmit sent ∈ ([⟨0, .start⟩].foldl after (create {} key false 0)).outputs
        ⟨1, .handle greeting⟩ ∧
      Frame.decodeDatagram (Frame.encode sent) = .ok read ∧ read ≠ sent := by
  intro key tags peer greeting query sent read
  have hframe : Frame.encode sent = Frame.encode read :=
    Frame.encode_of_split_destination (some key) [0x78] [0x79] (.data query)
  refine ⟨⟨List.replicate 16 0, rfl, rfl⟩, ?_, ?_, ?_, by decide⟩
  · exact Frame.decodeDatagram_encode_iff.2 (by decide)
  · decide +kernel
  · rw [hframe]
    exact Frame.decodeDatagram_encode_iff.2 (by decide)

end Session

end SpaGateway
