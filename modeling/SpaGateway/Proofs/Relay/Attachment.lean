import Mathlib.Tactic
import SpaGateway.Proofs.Frame.Field
import SpaGateway.Proofs.Relay.Hello
import SpaGateway.Proofs.Relay.Takeover
import SpaGateway.Proofs.Session.Safety

/-!
# Sessions through a relay

A session can be attached to a relay in two ways: as a controller app, which exchanges datagrams
with it, or on the local link, which exchanges packages.  `Peer.sends` and `Peer.hands` are the two
directions of either.  The lemmas of this module say what becomes of one package on its way, the
same for both kinds of peer: a hello is answered with the cached one, an authorized package for the
spa goes there as its frame and maps the peer, and what the spa then sends to the id comes back.

`Relay.session_attached` puts a whole session together from these.  Three parties split the
same octets for themselves, the session the answer to its hello, the relay its cached hello,
and the reader of a frame the fields of a package; it is enough that the spa's id fits the field
of a destination, and the session's key that of a source and a hello.
-/

namespace SpaGateway

/-! ## The two kinds of peers -/

namespace Peer

/-- How a package of a peer gets to the relay. -/
def sends (package : Package) : Peer → RelayInput
  | gateway => .localLink package
  | client address => .clientSocket address (Frame.encode package)

/-- How a package that came in a datagram gets to a peer. -/
def hands (package : Package) (datagram : Octets) : Peer → RelayEffect
  | gateway => .toLocal package
  | client address => .toClient address datagram

end Peer

namespace Relay

/-- Whether a relay listens to a peer: always to the local link, and to apps if it has a socket for
them. -/
def Hears (r : Relay) : Peer → Prop
  | .gateway => True
  | .client _ => r.hasClients = true

/-- Whether a relay has room for a package to a peer. -/
def Serves (r : Relay) : Peer → Prop
  | .gateway => ∃ queued, r.localQueued = some queued ∧ queued < localCapacity
  | .client _ => r.hasClients = true

/-- Whether a step leaves an id to its peer: nobody else speaks to the spa under the id, the peer
speaks under no other, and no sweep gives the two up. -/
def LeavesTo (peer : Peer) (id : Octets) (step : Step Relay Event) : Prop :=
  (∀ speaker ∈ step.before.speaker? step.action.input, speaker.1 = peer ↔ speaker.2 = id) ∧
    (id, peer) ∉ step.before.swept step.action.now step.action.input

variable {r : Relay} {peer : Peer} {id : Octets}

/-! ## The answer to a hello -/

/-- The relay and a session that gets its cached hello take the same part of it for the id of
the spa. -/
lemma exists_hello_eq (h : helloDelimiter ∈ r.hello) :
    ∃ name, helloDelimiter ∉ r.spaId ∧ r.hello = r.spaId ++ helloDelimiter :: name := by
  cases hsplit : splitHello? r.hello with
  | none => exact absurd h (splitHello?_eq_none_iff.1 hsplit)
  | some greeting =>
    have hspaId : r.spaId = greeting.1 := by rw [spaId, hsplit]
    obtain ⟨hpeer, hhello⟩ := splitHello?_eq_some_iff.1 hsplit
    exact ⟨greeting.2, hspaId ▸ hpeer, hspaId ▸ hhello⟩

/-- As long as the spa announces no other hello, the relay keeps the id that it has for the spa. -/
lemma spaId_foldl_handle_of_same {events : List Event}
    (h : ∀ event ∈ events, ∀ hello ∈ announced? r.spa event.input, hello = r.hello) :
    (events.foldl handle r).spaId = r.spaId := by
  have hsame : (events.foldl handle r).hello = r.hello := by
    rw [(r.hello_foldl_handle events).2]
    cases hlast : (events.filterMap fun event => announced? r.spa event.input).getLast? with
    | none => rfl
    | some last =>
      obtain ⟨event, hevent, hannounced⟩ := List.mem_filterMap.1 (List.mem_of_getLast? hlast)
      exact h event hevent last hannounced
  rw [spaId, spaId, hsame]

/-- The hello of a peer is answered with the cached one. -/
lemma react_hello (h : r.Serves peer) (hid : ¬ Frame.closeTag Frame.helloName <:+: id)
    (now : Nat) : (r.react now (peer.sends (.hello id))).2 =
      [peer.hands (.hello r.hello) (Frame.encode (.hello r.hello))] := by
  cases peer with
  | gateway =>
    obtain ⟨queued, hqueued, hroom⟩ := h
    exact react_localLink_hello hqueued hroom now id
  | client address =>
    exact react_clientSocket_hello h (Frame.decodeDatagram_encode_iff.2 hid) now address

/-! ## Packages for the spa -/

/-- A package for the spa goes there as its frame, if its fields fit, and it is its sender who
speaks. -/
lemma sends_authorized (h : r.Hears peer) (hid : Frame.FitsField .source id)
    (hspa : Frame.FitsField .destination r.spaId) {content : Content}
    (hcontent : Frame.FitsField .content content.toOctets) :
    let package := Package.authorized (some id) (some r.spaId) content
    r.speaker? (peer.sends package) = some (peer, id) ∧
      (r.upstream? (peer.sends package)).map Passage.datagram = some (Frame.encode package) := by
  intro package
  cases peer with
  | gateway => exact ⟨rfl, rfl⟩
  | client address =>
    have hread := Frame.decodeDatagram_encode_authorized (Frame.fitsField_of_mem_some hid)
      (Frame.fitsField_of_mem_some hspa) hcontent
    have haccepted : r.accepted? (Frame.encode package) =
        some (id, .ofOctets content.toOctets) := accepted?_eq_some_iff.2 hread
    have hclients : r.hasClients = true := h
    simp [Peer.sends, speaker?, upstream?, hclients, haccepted]

/-! ## Packages of the spa -/

/-- Who speaks gets what the spa sends to the id. -/
lemma peer?_handle_of_speaker (h : r.forwards.IsOneToOne) {event : Event}
    (hspeaker : r.speaker? event.input = some (peer, id)) :
    (handle r event).forwards.peer? id = some peer :=
  ((reaction_react h event.now event.input).maps_iff id peer).2 (.inl hspeaker)

/-- An id stays with its peer as long as every step leaves it there. -/
lemma peer?_foldl_handle_of_leavesTo (h : r.forwards.IsOneToOne)
    (hmapped : r.forwards.peer? id = some peer) {events : List Event}
    (hleaves : ∀ step ∈ r.history events, LeavesTo peer id step) :
    (events.foldl handle r).forwards.peer? id = some peer := by
  refine (keeps_of_mem_steps (P := fun s : Relay => s.forwards.peer? id = some peer) hmapped
    fun step hstep hbefore => ?_).1
  rw [(reaction_of_mem_history h hstep).maps_iff]
  obtain ⟨hspeakers, hswept⟩ := hleaves step hstep
  by_cases hspoke : step.before.speaker? step.action.input = some (peer, id)
  · exact .inl hspoke
  · -- whoever speaks in this step is another peer, under another id
    refine .inr ⟨hbefore, ?_⟩
    rintro (⟨speaker, hspeaker, hpeer | hid⟩ | hgone)
    · have hid := (hspeakers speaker hspeaker).1 hpeer
      exact hspoke (hspeaker.trans (by rw [← hpeer, ← hid]))
    · have hpeer := (hspeakers speaker hspeaker).2 hid
      exact hspoke (hspeaker.trans (by rw [← hpeer, ← hid]))
    · exact hswept hgone

/-- What the spa sends to an id is handed to its peer, a datagram for an app as it is. -/
lemma hands_mem_effects (h : r.forwards.IsOneToOne) (hmapped : r.forwards.peer? id = some peer)
    (hserves : r.Serves peer) {datagram : Octets} {source : Option Octets} {content : Content}
    (hdecode : Frame.decodeDatagram datagram = .ok (.authorized source (some id) content))
    (now : Nat) : peer.hands (.authorized source (some id) content) datagram ∈
      (r.react now (.spaSocket r.spa datagram)).2 := by
  cases peer with
  | gateway =>
    obtain ⟨queued, hqueued, hroom⟩ := hserves
    rw [r.effects_react_authorized hdecode now, hmapped]
    simp [route, deliverLocal, hqueued, hroom, Peer.hands]
  | client address =>
    rw [Peer.hands, toClient_mem_iff,
      (reaction_react h now (.spaSocket r.spa datagram)).toClient_eq, List.mem_append,
      Option.mem_toList, Option.mem_toList, forClient?_eq_some_iff]
    exact .inr ⟨hserves, rfl, source, id, content, hdecode, hmapped⟩

/-- **Both ways.**  What a peer says to the spa goes there as its frame, and from then on the peer
is handed whatever the spa sends to the id, as long as every step leaves the id to the peer. -/
lemma carries_both_ways (h : r.forwards.IsOneToOne) (hhears : r.Hears peer)
    (hid : Frame.FitsField .source id) (hspa : Frame.FitsField .destination r.spaId)
    {content : Content} (hcontent : Frame.FitsField .content content.toOctets) (now : Nat) :
    let package := Package.authorized (some id) (some r.spaId) content
    let spoken := handle r ⟨now, peer.sends package⟩
    (r.react now (peer.sends package)).2.filterMap RelayEffect.toSpa? = [Frame.encode package] ∧
      ∀ later : List Event, (∀ step ∈ spoken.history later, LeavesTo peer id step) →
        let r' := later.foldl handle spoken
        r'.Serves peer → ∀ datagram source content now,
          Frame.decodeDatagram datagram = .ok (.authorized source (some id) content) →
          peer.hands (.authorized source (some id) content) datagram ∈
            (r'.react now (.spaSocket r.spa datagram)).2 := by
  intro package spoken
  obtain ⟨hspeaker, hup⟩ := sends_authorized hhears hid hspa hcontent
  have hreaction := reaction_react h now (peer.sends package)
  constructor
  · rw [hreaction.toSpa_eq, hup]
    rfl
  · intro later hleaves r' hserves datagram source content now' hdecode
    have hspoken : spoken.forwards.IsOneToOne := hreaction.isOneToOne
    have hmapped : r'.forwards.peer? id = some peer :=
      peer?_foldl_handle_of_leavesTo hspoken (peer?_handle_of_speaker h hspeaker) hleaves
    have hsame : r'.spa = r.spa := (r.hello_foldl_handle (⟨now, peer.sends package⟩ :: later)).1
    rw [← hsame]
    exact hands_mem_effects (invariant_foldl_handle hspoken later).1 hmapped hserves hdecode now'

end Relay

/-! ## The session -/

namespace Session

variable {s s' : Session} {now : Nat} {call : SessionCall} {outputs : List SessionOutput}

/-- A session that starts introduces itself by its key, and is authorized by an answer that names
a peer. -/
lemma authorized_of_answer (h : s.phase ≠ .closed) {peer : Octets} (hpeer : helloDelimiter ∉ peer)
    (name : Octets) (t₀ t₁ : Nat) :
    (s.start t₀).2 = [.transmit (.hello s.key)] ∧
      ((s.start t₀).1.handle (.hello (peer ++ helloDelimiter :: name)) t₁).1 =
        (s.introduced t₀ s.key).welcomed t₁ peer name := by
  have hstart : s.start t₀ = (s.introduced t₀ s.key, [.transmit (.hello s.key)]) := if_neg h
  have hphase : (s.introduced t₀ s.key).phase = .awaitingHello := rfl
  rw [hstart, Session.handle, handleHello_of_notMem hphase hpeer]
  exact ⟨rfl, rfl⟩

/-- A call that an authorized session takes and stays authorized leaves its key and its peer. -/
lemma Move.keeps_of_authorized (hmove : s.Move now call s' outputs) (h : s.phase = .authorized)
    (h' : s'.phase = .authorized) : s'.key = s.key ∧ s'.peer = s.peer := by
  cases hmove with
  | ignore | accept | ping => exact ⟨rfl, rfl⟩
  | welcome hphase | reject hphase | timeOut hphase => simp [hphase] at h
  | start | fallSilent => simp [introduced] at h'
  | close => simp [Session.close] at h'

/-- Whether a session is authorized after every step of a run. -/
def StaysAuthorized (s : Session) (calls : List Event) : Prop :=
  ∀ step ∈ s.history calls, (step.before.after step.action).phase = .authorized

/-- A session that stays authorized keeps its key and its peer, and wraps content for them. -/
lemma frame?_of_staysAuthorized (h : s.phase = .authorized) {calls : List Event}
    (hstays : s.StaysAuthorized calls) (content : Content) :
    (calls.foldl after s).frame? content =
      some (.authorized (some s.key) s.peer content) := by
  have hkeeps : (calls.foldl after s).phase = .authorized ∧ (calls.foldl after s).key = s.key ∧
      (calls.foldl after s).peer = s.peer := by
    refine (keeps_of_mem_steps
      (P := fun t : Session => t.phase = .authorized ∧ t.key = s.key ∧ t.peer = s.peer)
      ⟨h, rfl, rfl⟩ fun step hstep hbefore => ?_).1
    obtain ⟨hphase, hkey, hpeer⟩ := hbefore
    have hafter := hstays step hstep
    obtain ⟨hkey', hpeer'⟩ :=
      (move_perform step.action.call).keeps_of_authorized hphase hafter
    exact ⟨hafter, hkey'.trans hkey, hpeer'.trans hpeer⟩
  obtain ⟨hphase, hkey, hpeer⟩ := hkeeps
  rw [frame?, if_pos hphase, hkey, hpeer]

end Session

namespace Relay

variable {r : Relay}

/-- **A session can be attached to a relay.**  Take a relay in any state that it can get into, with
a cached hello that arrived in a datagram, has a delimiter, and names the spa by an id that fits the
field of a destination; and a session whose key fits the field of a source and a hello.  The peer
may be an app or the local link, if the relay has room for a package to it.

The session introduces itself, gets the cached hello for an answer, and is authorized on it, with
the id that the relay has for the spa.  As long as the spa announces no other hello, the session
stays authorized and the relay listens, the spa gets every content that fits, as the frame of the
very package that the session wraps it into.  From then on, whatever the spa sends to the key is
handed to this peer, if there is room for it, as long as every step leaves the key to the peer. -/
theorem session_attached (hr : r.IsReachable) (peer : Peer) (s : Session) (t₀ t₁ t₂ : Nat)
    (harrived : ∃ datagram, Frame.decodeDatagram datagram = .ok (.hello r.hello))
    (hnamed : helloDelimiter ∈ r.hello) (hspaId : Frame.FitsField .destination r.spaId)
    (hgreets : ¬ Frame.closeTag Frame.helloName <:+: s.key)
    (hkey : Frame.FitsField .source s.key) (hphase : s.phase ≠ .closed) (hserves : r.Serves peer) :
    let greeting : Event := ⟨t₁, peer.sends (.hello s.key)⟩
    let answer := Package.hello r.hello
    let attached := ((s.start t₀).1.handle answer t₂).1
    (s.start t₀).2 = [.transmit (.hello s.key)] ∧
      (r.react greeting.now greeting.input).2 = [peer.hands answer (Frame.encode answer)] ∧
      Frame.decodeDatagram (Frame.encode answer) = .ok answer ∧
      attached.phase = .authorized ∧ attached.peer = some r.spaId ∧ attached.key = s.key ∧
      ∀ between : List Event,
        (∀ event ∈ between, ∀ hello ∈ announced? r.spa event.input, hello = r.hello) →
        let r' := between.foldl handle (handle r greeting)
        r'.Hears peer →
        ∀ calls : List Session.Event, attached.StaysAuthorized calls →
        ∀ content : Content, Frame.FitsField .content content.toOctets → ∀ now,
          ∃ package, (calls.foldl Session.after attached).frame? content = some package ∧
            (r'.react now (peer.sends package)).2.filterMap RelayEffect.toSpa? =
              [Frame.encode package] ∧
            ∀ later : List Event,
              let spoken := handle r' ⟨now, peer.sends package⟩
              let r'' := later.foldl handle spoken
              (∀ step ∈ spoken.history later, LeavesTo peer s.key step) → r''.Serves peer →
              ∀ datagram source content now,
                Frame.decodeDatagram datagram = .ok (.authorized source (some s.key) content) →
                peer.hands (.authorized source (some s.key) content) datagram ∈
                  (r''.react now (.spaSocket r.spa datagram)).2 := by
  intro greeting answer attached
  obtain ⟨name, hid, hhello⟩ := exists_hello_eq hnamed
  obtain ⟨hintroduced, hattached⟩ := Session.authorized_of_answer hphase hid name t₀ t₂
  rw [← hhello] at hattached
  replace hattached : attached = (s.introduced t₀ s.key).welcomed t₂ r.spaId name := hattached
  have hauthorized : attached.phase = .authorized := by rw [hattached]; rfl
  have hpeer : attached.peer = some r.spaId := by rw [hattached]; rfl
  have hkept : attached.key = s.key := by rw [hattached]; rfl
  refine ⟨hintroduced, react_hello hserves hgreets t₁, decodeDatagram_encode_hello harrived [],
    hauthorized, hpeer, hkept, ?_⟩
  intro between hbetween r' hhears calls hstays content hcontent now
  -- up to now the relay has kept the id of the spa, and the session its peer
  have hquiet : ∀ event ∈ greeting :: between, ∀ hello ∈ announced? r.spa event.input,
      hello = r.hello := by
    refine List.forall_mem_cons.2 ⟨?_, hbetween⟩
    intro hello hannounced
    cases peer <;> cases hannounced
  have hsame : r'.spaId = r.spaId := spaId_foldl_handle_of_same hquiet
  have hspa : r'.spa = r.spa := (r.hello_foldl_handle (greeting :: between)).1
  have hone : r'.forwards.IsOneToOne :=
    (invariant_foldl_handle hr.isOneToOne (greeting :: between)).1
  have hframe := Session.frame?_of_staysAuthorized hauthorized hstays content
  rw [hkept, hpeer, ← hsame] at hframe
  obtain ⟨hup, hdown⟩ := carries_both_ways hone hhears hkey (hsame ▸ hspaId) hcontent now
  rw [hspa] at hdown
  exact ⟨_, hframe, hup, hdown⟩

/-- An app is attached next to the gateway's own session, pings the spa and gets the answer. -/
theorem session_attached_next_to_gateway :
    let spa : SocketAddress := .v4 ⟨10, 0, 0, 1⟩ 10022
    let app : SocketAddress := .v4 ⟨10, 0, 0, 2⟩ 20000
    let r := create {} spa [0x53, helloDelimiter, 0x50] true true
    let attached := (((Session.create {} [0x6b] true 0).start 0).1.handle (.hello r.hello) 2).1
    let ping := Package.authorized (some [0x6b]) (some [0x53]) .ping
    let pong := Frame.encode (.authorized none (some [0x6b]) .pong)
    let run : List Event := [⟨1, .clientSocket app (Frame.encode (.hello [0x6b]))⟩,
      ⟨3, .clientSocket app (Frame.encode ping)⟩,
      ⟨4, .localLink (.authorized (some [0x62]) (some [0x53]) .ping)⟩]
    attached.frame? .ping = some ping ∧
      .toClient app pong ∈ ((run.foldl handle r).react 5 (.spaSocket spa pong)).2 := by
  intro spa app r attached ping pong run
  obtain ⟨-, -, -, -, -, -, hattached⟩ := session_attached (r := r)
    ⟨{}, spa, _, true, true, [], rfl⟩ (.client app) (Session.create {} [0x6b] true 0) 0 1 2
    ⟨Frame.encode (.hello r.hello), rfl⟩ (by decide) (by decide) (by decide) (by decide)
    (by decide) rfl
  obtain ⟨package, hframe, -, hlater⟩ := hattached [] (by simp) rfl []
    (by simp [Session.StaysAuthorized, Session.history, steps]) .ping (by decide) 3
  obtain rfl : package = ping := (Option.some.inj hframe).symm
  refine ⟨hframe, hlater [⟨4, .localLink (.authorized (some [0x62]) (some [0x53]) .ping)⟩] ?_ rfl
    pong none .pong 5 rfl⟩
  intro step hstep
  obtain rfl := List.mem_singleton.1 hstep
  refine ⟨?_, by decide⟩
  intro speaker hspeaker
  obtain rfl := Option.some.inj hspeaker
  decide

end Relay

end SpaGateway
