import Mathlib.Tactic
import SpaGateway.Connection.Direct
import SpaGateway.Proofs.Frame.Stream
import SpaGateway.Proofs.Relay.Upkeep

/-!
# Through a relay or directly

A connection can talk to the spa over a socket of its own or through a relay.  The two read
datagrams differently.  A direct link takes every frame that it finds and skips the rest; a relay
wants exactly one frame, and it has to be addressed.

`Relay.agrees_with_direct_iff` compares them on the datagrams that are meant for the local link as
far as they hold frames at all.  They agree exactly on those that are one addressed frame, and on
those without any; of all others the relay delivers nothing.
-/

namespace SpaGateway

namespace Frame

/-- A frame at the front of a buffer is read first. -/
lemma packages_decode_encode_append {package : Package} (h : WireSafe package) (rest : Octets) :
    (decode (encode package ++ rest)).packages = package :: (decode rest).packages := by
  rw [decode_of_some (decodeFrame_encode_append h rest), ← length_encode, List.drop_left]
  rfl

/-- A datagram that is one frame holds nothing else. -/
lemma packages_decode_of_decodeDatagram {datagram : Octets} {package : Package}
    (h : decodeDatagram datagram = .ok package) : (decode datagram).packages = [package] := by
  obtain ⟨hsafe, rfl⟩ := decodeDatagram_eq_ok_iff.1 h
  simpa [decode_nil] using packages_decode_encode_append hsafe []

end Frame

/-- The package for the local link, if this was one. -/
def RelayEffect.toLocal? : RelayEffect → Option Package
  | toLocal package => some package
  | _ => none

namespace Relay

variable {r : Relay} {key : Octets}

/-- Whether a package is one that the local link would take: one of an authorized session that is
addressed to its key or to nobody. -/
def IsMeantFor (key : Octets) : Package → Prop
  | .hello _ => False
  | .authorized _ destination _ => ∀ id ∈ destination, id = key

/-- What the local link gets of a datagram of the spa. -/
def delivered (r : Relay) (sender : SocketAddress) (datagram : Octets) (now : Nat) : List Package :=
  (r.react now (.spaSocket sender datagram)).2.filterMap RelayEffect.toLocal?

/-- An addressed frame is delivered, if its destination belongs to the local link. -/
lemma delivered_eq_singleton (hmapped : r.forwards.peer? key = some .gateway) {queued : Nat}
    (hqueued : r.localQueued = some queued) (hroom : queued < localCapacity) {datagram : Octets}
    {source : Option Octets} {content : Content}
    (hdecode : Frame.decodeDatagram datagram = .ok (.authorized source (some key) content))
    (now : Nat) :
    r.delivered r.spa datagram now = [.authorized source (some key) content] := by
  rw [delivered, r.effects_react_authorized hdecode, hmapped]
  simp only [route, deliverLocal, hqueued, hroom, if_true]
  rfl

/-- What is not an addressed frame of the spa is not delivered. -/
lemma delivered_eq_nil {sender : SocketAddress} {datagram : Octets}
    (hnone : sender = r.spa → ∀ source destination content, Frame.decodeDatagram datagram ≠
      .ok (.authorized source (some destination) content)) (now : Nat) :
    r.delivered sender datagram now = [] := by
  rw [delivered, react]
  split
  · rename_i hsender
    unfold onSpaDatagram
    split
    · rfl
    · rfl
    · rfl
    · rename_i hdecode
      exact (hnone hsender _ _ _ hdecode).elim
  · rfl

/-- **Where a relay and a direct link agree.**  Let a key belong to the local link of a relay, and
let there be room for packages.  Of a datagram whose frames are all meant for the key, as far as it
holds any, the local link gets what a direct link would get exactly if that is nothing, or if the
datagram is a single frame that is addressed to the key.  If they do not agree, the local link gets
nothing. -/
theorem agrees_with_direct_iff (hmapped : r.forwards.peer? key = some .gateway) {queued : Nat}
    (hqueued : r.localQueued = some queued) (hroom : queued < localCapacity) (datagram : Octets)
    (hmeant : ∀ package ∈ (Frame.decode datagram).packages, IsMeantFor key package)
    (sender : SocketAddress) (now : Nat) :
    let direct := DirectLink.packages r.spa sender datagram
    (r.delivered sender datagram now = direct ↔ direct = [] ∨
        ∃ source content, Frame.decodeDatagram datagram =
          .ok (.authorized source (some key) content)) ∧
      (r.delivered sender datagram now ≠ direct → r.delivered sender datagram now = []) := by
  intro direct
  have hdirect : direct = if sender = r.spa then (Frame.decode datagram).packages else [] := rfl
  by_cases hsingle : sender = r.spa ∧ ∃ source content,
      Frame.decodeDatagram datagram = .ok (.authorized source (some key) content)
  · obtain ⟨rfl, source, content, hdecode⟩ := hsingle
    have hagree : r.delivered r.spa datagram now = direct := by
      rw [delivered_eq_singleton hmapped hqueued hroom hdecode, hdirect, if_pos rfl,
        Frame.packages_decode_of_decodeDatagram hdecode]
    exact ⟨iff_of_true hagree (.inr ⟨source, content, hdecode⟩), fun hnot => (hnot hagree).elim⟩
  · have hnothing : r.delivered sender datagram now = [] := by
      refine delivered_eq_nil (fun hsender source destination content hdecode => ?_) now
      have hmem : Package.authorized source (some destination) content ∈
          (Frame.decode datagram).packages := by
        rw [Frame.packages_decode_of_decodeDatagram hdecode]
        exact List.mem_singleton_self _
      obtain rfl : destination = key := hmeant _ hmem destination rfl
      exact hsingle ⟨hsender, source, content, hdecode⟩
    refine ⟨?_, fun _ => hnothing⟩
    rw [hnothing, eq_comm]
    refine ⟨.inl, ?_⟩
    rintro (hnone | ⟨source, content, hdecode⟩)
    · exact hnone
    · rw [hdirect, if_neg fun hsender => hsingle ⟨hsender, source, content, hdecode⟩]

/-- A single frame for the local link comes either way. -/
theorem agrees_with_direct_of_frame :
    let spa : SocketAddress := .v4 ⟨10, 0, 0, 1⟩ 10022
    let r := handle (create {} spa [0x53, 0x7c] true true)
      ⟨0, .localLink (.authorized (some [0x6b]) (some [0x53]) .ping)⟩
    let package : Package := .authorized (some [0x53]) (some [0x6b]) .pong
    r.delivered spa (Frame.encode package) 1 =
      DirectLink.packages spa spa (Frame.encode package) := by
  intro spa r package
  have hdecode : Frame.decodeDatagram (Frame.encode package) = .ok package := rfl
  have hmeant : ∀ found ∈ (Frame.decode (Frame.encode package)).packages,
      IsMeantFor [0x6b] found := by
    rw [Frame.packages_decode_of_decodeDatagram hdecode, List.forall_mem_singleton]
    exact fun id hid => (Option.some.inj hid).symm
  have hagree := agrees_with_direct_iff (r := r) rfl rfl (by decide) (Frame.encode package) hmeant
    spa 1
  exact hagree.1.2 (.inr ⟨some [0x53], .pong, hdecode⟩)

/-- Two frames in a datagram, an octet after a frame, a frame without destination: what a direct
link takes, the local link of a relay does not get. -/
theorem disagrees_with_direct :
    let spa : SocketAddress := .v4 ⟨10, 0, 0, 1⟩ 10022
    let r := handle (create {} spa [0x53, 0x7c] true true)
      ⟨0, .localLink (.authorized (some [0x6b]) (some [0x53]) .ping)⟩
    let package : Package := .authorized (some [0x53]) (some [0x6b]) .pong
    let unaddressed : Package := .authorized (some [0x53]) none .pong
    let frame := Frame.encode package
    (r.forwards.peer? [0x6b] = some .gateway ∧ r.localQueued = some 0) ∧
      (DirectLink.packages spa spa (frame ++ frame) = [package, package] ∧
        r.delivered spa (frame ++ frame) 1 = []) ∧
      (DirectLink.packages spa spa (frame ++ [0x21]) = [package] ∧
        r.delivered spa (frame ++ [0x21]) 1 = []) ∧
      DirectLink.packages spa spa (Frame.encode unaddressed) = [unaddressed] ∧
        r.delivered spa (Frame.encode unaddressed) 1 = [] := by
  intro spa r package unaddressed frame
  have hsafe : Frame.WireSafe package := by decide
  have hone : (Frame.decode frame).packages = [package] :=
    Frame.packages_decode_of_decodeDatagram rfl
  have hjunk : (Frame.decode [0x21]).packages = [] := by
    rw [Frame.decode_of_error (rfl : Frame.decodeFrame [0x21] = .error (.unknownStart [0x21]))]
    simp [Frame.skipLength, Frame.decode_nil, Frame.Decoded.skipped]
  refine ⟨⟨rfl, rfl⟩, ⟨?_, rfl⟩, ⟨?_, rfl⟩, ?_, rfl⟩
  · rw [DirectLink.packages, if_pos rfl, Frame.packages_decode_encode_append hsafe, hone]
  · rw [DirectLink.packages, if_pos rfl, Frame.packages_decode_encode_append hsafe, hjunk]
  · rw [DirectLink.packages, if_pos rfl]
    exact Frame.packages_decode_of_decodeDatagram rfl

end Relay

end SpaGateway
