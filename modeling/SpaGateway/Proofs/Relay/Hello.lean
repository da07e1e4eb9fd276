import Mathlib.Tactic
import SpaGateway.Proofs.Frame.Image
import SpaGateway.Proofs.Relay.Transparency
import SpaGateway.Proofs.Session.Call
import SpaGateway.Relay.Host

/-!
# The hello that a relay answers with

A relay is bound only to a spa whose hello names it (`Binding.of_bound`).  While it runs, every
hello of the spa replaces the cached one, named or not.  So the cached hello names the spa exactly
if the last one that arrived does, and only then can a peer complete its handshake on the answer
(`Relay.answer_completes_iff`).  One datagram of the spa makes the answer useless
(`Relay.answer_useless_of_nameless_hello`).
-/

namespace SpaGateway

/-! ## Binding -/

namespace Greeting

/-- A greeting that was answered was answered by a datagram. -/
def IsHeard : Greeting → Prop
  | answered _ hello => ∃ datagram, Frame.decodeDatagram datagram = .ok (.hello hello)
  | waiting _ | unanswered => True

lemma isHeard_waiting (attempt : Nat) : (waiting attempt).IsHeard := trivial

variable {spa : SocketAddress}

lemma decodeDatagram_of_answer? {sender : SocketAddress} {data hello : Octets}
    (h : answer? spa sender data = some hello) :
    Frame.decodeDatagram data = .ok (.hello hello) := by
  unfold answer? at h
  split at h
  · split at h
    · obtain rfl := Option.some.inj h
      assumption
    · cases h
  · cases h

lemma IsHeard.step {greeting : Greeting} (h : greeting.IsHeard) (arrival : Arrival) :
    (greeting.step spa arrival).IsHeard := by
  cases greeting with
  | answered | unanswered => exact h
  | waiting attempt =>
    cases arrival with
    | datagram sender data =>
      rw [Greeting.step]
      split
      · exact ⟨data, decodeDatagram_of_answer? ‹_›⟩
      · trivial
    | windowEnd =>
      rw [Greeting.step]
      split <;> trivial

lemma IsHeard.takeWindow {greeting : Greeting} (h : greeting.IsHeard)
    (arrivals : List (SocketAddress × Octets)) : (greeting.takeWindow spa arrivals).1.IsHeard := by
  induction arrivals generalizing greeting with
  | nil => cases greeting <;> exact h
  | cons arrival arrivals ih =>
    cases greeting with
    | answered | unanswered => exact h
    | waiting attempt => exact ih (h.step _)

lemma IsHeard.takeWindows {greeting : Greeting} (h : greeting.IsHeard)
    (windows : List (List (SocketAddress × Octets))) :
    (greeting.takeWindows spa windows).1.IsHeard := by
  induction windows generalizing greeting with
  | nil => cases greeting <;> exact h
  | cons arrivals windows ih =>
    cases greeting with
    | answered | unanswered => exact h
    | waiting attempt =>
      have htaken : ((waiting attempt).takeWindow spa arrivals).1.IsHeard := h.takeWindow arrivals
      have hended (attempt : Nat) : ((waiting attempt).step spa .windowEnd).IsHeard :=
        (isHeard_waiting _).step _
      rw [Greeting.takeWindows]
      split
      · exact ih (hended _)
      · exact htaken

/-- A greeting succeeds only with a hello that names the spa. -/
lemma exists_of_outcome? {greeting : Greeting} {hello : Octets}
    (h : greeting.outcome? spa = some (.ok hello)) :
    ∃ attempt, greeting = answered attempt hello ∧ helloDelimiter ∈ hello := by
  cases greeting with
  | waiting | unanswered => cases h
  | answered attempt heard =>
    rw [outcome?] at h
    split at h
    · rename_i hnamed
      obtain rfl : heard = hello := Except.ok.inj (Option.some.inj h)
      refine ⟨attempt, rfl, by_contra fun hnot => ?_⟩
      rw [splitHello?_eq_none_iff.2 hnot] at hnamed
      cases hnamed
    · cases h

end Greeting

/-- A relay is bound only to a spa that introduced itself, and named itself then. -/
lemma Binding.of_bound {network : Network} {spa : SocketAddress}
    {windows : List (List (SocketAddress × Octets))} {hellos : Nat} {hello : Octets}
    {waiting : List (SocketAddress × Octets)}
    (h : ofArrivals network spa windows = bound hellos hello waiting) :
    helloDelimiter ∈ hello ∧ ∃ datagram, Frame.decodeDatagram datagram = .ok (.hello hello) := by
  unfold ofArrivals at h
  split at h
  · cases h
  · have hheard : (Greeting.begin.takeWindows spa windows).1.IsHeard :=
      (Greeting.isHeard_waiting 1).takeWindows windows
    dsimp only at h
    split at h
    · cases h
    · rename_i houtcome
      obtain ⟨attempt, hanswered, hnamed⟩ := Greeting.exists_of_outcome? houtcome
      rw [hanswered] at hheard
      obtain ⟨-, rfl, -⟩ := Binding.bound.inj h
      exact ⟨hnamed, hheard⟩
    · cases h

namespace Relay

/-! ## The cached hello -/

/-- What the spa announces arrived in a datagram. -/
lemma exists_of_announced? {spa : SocketAddress} {input : RelayInput} {hello : Octets}
    (h : announced? spa input = some hello) :
    ∃ datagram, Frame.decodeDatagram datagram = .ok (.hello hello) := by
  cases input with
  | spaSocket sender datagram => exact ⟨datagram, Greeting.decodeDatagram_of_answer? h⟩
  | clientSocket | localLink | localTaken | localDropped | sweep => cases h

/-- The cached hello always fits a datagram. -/
lemma decodeDatagram_encode_hello {r : Relay}
    (h : ∃ datagram, Frame.decodeDatagram datagram = .ok (.hello r.hello)) (past : List Event) :
    Frame.decodeDatagram (Frame.encode (.hello (past.foldl handle r).hello)) =
      .ok (.hello (past.foldl handle r).hello) := by
  have harrived : ∃ datagram,
      Frame.decodeDatagram datagram = .ok (.hello (past.foldl handle r).hello) := by
    rw [(r.hello_foldl_handle past).2]
    cases hlast : (past.filterMap fun event => announced? r.spa event.input).getLast? with
    | none => exact h
    | some last =>
      obtain ⟨event, -, hannounced⟩ := List.mem_filterMap.1 (List.mem_of_getLast? hlast)
      exact exists_of_announced? hannounced
  obtain ⟨datagram, hdecode⟩ := harrived
  obtain ⟨hsafe, -⟩ := Frame.decodeDatagram_eq_ok_iff.1 hdecode
  exact Frame.decodeDatagram_eq_ok_iff.2 ⟨hsafe, rfl⟩

/-- The hello of an app is answered with the cached one. -/
lemma react_clientSocket_hello {r : Relay} (h : r.hasClients = true) {datagram key : Octets}
    (hdecode : Frame.decodeDatagram datagram = .ok (.hello key)) (now : Nat)
    (sender : SocketAddress) : (r.react now (.clientSocket sender datagram)).2 =
      [.toClient sender (Frame.encode (.hello r.hello))] := by
  rw [react, if_pos h, onClientDatagram, hdecode]

/-- So is the hello of the local link, if it takes packages at all. -/
lemma react_localLink_hello {r : Relay} {queued : Nat} (h : r.localQueued = some queued)
    (hroom : queued < localCapacity) (now : Nat) (key : Octets) :
    (r.react now (.localLink (.hello key))).2 = [.toLocal (.hello r.hello)] := by
  simp [react, onLocalPackage, deliverLocal, h, hroom]

end Relay

/-- A hello completes the handshake of a session that awaits one exactly if it has a delimiter. -/
lemma Session.handle_hello_authorized_iff {s : Session} (h : s.phase = .awaitingHello)
    (payload : Octets) (now : Nat) :
    (s.handle (.hello payload) now).1.phase = .authorized ↔ helloDelimiter ∈ payload := by
  rw [Session.handle]
  cases hsplit : splitHello? payload with
  | none =>
    have hnot := splitHello?_eq_none_iff.1 hsplit
    simp [handleHello_of_malformed h hnot, h, hnot]
  | some greeting =>
    obtain ⟨hpeer, rfl⟩ := splitHello?_eq_some_iff.1 hsplit
    simp [handleHello_of_notMem h hpeer, welcomed]

namespace Relay

/-- **When the answer of a relay is of use.**  Whatever happened to a relay since it was bound, it
answers the hellos of apps and of the local link with the cached one, and those who ask can read
the answer.  It completes their handshakes exactly if it has a delimiter, and that is so exactly if
the last hello that the spa sent since has one, should there be any. -/
theorem answer_completes_iff (network : Network) (config : GatewayConfig) (spa : SocketAddress)
    (windows : List (List (SocketAddress × Octets))) (hellos : Nat) (hello : Octets)
    (waiting : List (SocketAddress × Octets))
    (hbound : Binding.ofArrivals network spa windows = .bound hellos hello waiting)
    (hasLocal hasClients : Bool) (past : List Event) :
    let r := past.foldl handle (create config spa hello hasLocal hasClients)
    let answer := Package.hello r.hello
    let named := ∀ last ∈ (past.filterMap fun event => announced? spa event.input).getLast?,
      helloDelimiter ∈ last
    (helloDelimiter ∈ r.hello ↔ named) ∧
      (∀ s : Session, s.phase = .awaitingHello → ∀ now,
        ((s.handle answer now).1.phase = .authorized ↔ named)) ∧
      Frame.decodeDatagram (Frame.encode answer) = .ok answer ∧
      (hasClients = true → ∀ datagram key, Frame.decodeDatagram datagram = .ok (.hello key) →
        ∀ now sender, (r.react now (.clientSocket sender datagram)).2 =
          [.toClient sender (Frame.encode answer)]) ∧
      ∀ queued, r.localQueued = some queued → queued < localCapacity → ∀ now key,
        (r.react now (.localLink (.hello key))).2 = [.toLocal answer] := by
  intro r answer named
  obtain ⟨hnamed, harrived⟩ := Binding.of_bound hbound
  set created := create config spa hello hasLocal hasClients
  have hone : created.forwards.IsOneToOne := ForwardTable.isOneToOne_empty
  obtain ⟨-, hclients⟩ := invariant_foldl_handle hone past
  have hiff : helloDelimiter ∈ r.hello ↔ named := by
    have hcached : r.hello =
        (past.filterMap fun event => announced? spa event.input).getLast?.getD hello :=
      (created.hello_foldl_handle past).2
    rw [hcached]
    simp only [named]
    cases (past.filterMap fun event => announced? spa event.input).getLast? with
    | none => simp [hnamed]
    | some last => simp
  refine ⟨hiff, fun s hphase now => ?_, decodeDatagram_encode_hello harrived past,
    fun h datagram key hdecode now sender => ?_, fun queued hqueued hroom now key =>
      react_localLink_hello hqueued hroom now key⟩
  · exact (Session.handle_hello_authorized_iff hphase _ now).trans hiff
  · exact react_clientSocket_hello (hclients.trans h) hdecode now sender

/-- The spa names itself anew, and the handshake of an app completes on that. -/
theorem answer_completes_of_named_hello :
    let spa : SocketAddress := .v4 ⟨10, 0, 0, 1⟩ 10022
    let past : List Event := [⟨5, .spaSocket spa (Frame.encode (.hello [0x53, 0x7c, 0x51]))⟩]
    let r := past.foldl handle (create {} spa [0x53, 0x7c, 0x50] true true)
    let app := (Session.create {} [0x6b] true 0).introduced 6 [0x6b]
    Binding.ofArrivals {} spa [[(spa, Frame.encode (.hello [0x53, 0x7c, 0x50]))]] =
        .bound 1 [0x53, 0x7c, 0x50] [] ∧
      (app.handle (.hello r.hello) 7).1.phase = .authorized := by
  intro spa past r app
  have hbound : Binding.ofArrivals {} spa [[(spa, Frame.encode (.hello [0x53, 0x7c, 0x50]))]] =
      .bound 1 [0x53, 0x7c, 0x50] [] := rfl
  obtain ⟨-, hcompletes, -⟩ := answer_completes_iff {} {} spa _ 1 _ [] hbound true true past
  exact ⟨hbound, (hcompletes app rfl 7).2 (by decide)⟩

/-- The spa names nobody once: nobody who asks the relay from then on completes a handshake. -/
theorem answer_useless_of_nameless_hello :
    let spa : SocketAddress := .v4 ⟨10, 0, 0, 1⟩ 10022
    let address : SocketAddress := .v4 ⟨10, 0, 0, 2⟩ 20000
    let past : List Event := [⟨5, .spaSocket spa (Frame.encode (.hello [0x53]))⟩]
    let r := past.foldl handle (create {} spa [0x53, 0x7c, 0x50] true true)
    let app := (Session.create {} [0x6b] true 0).introduced 6 [0x6b]
    Binding.ofArrivals {} spa [[(spa, Frame.encode (.hello [0x53, 0x7c, 0x50]))]] =
        .bound 1 [0x53, 0x7c, 0x50] [] ∧
      helloDelimiter ∉ r.hello ∧
      (r.react 6 (.clientSocket address (Frame.encode (.hello app.key)))).2 =
        [.toClient address (Frame.encode (.hello [0x53]))] ∧
      (r.react 6 (.localLink (.hello app.key))).2 = [.toLocal (.hello [0x53])] ∧
      app.handle (.hello [0x53]) 7 = (app, [.event (.malformedHandshake [0x53])]) :=
  ⟨rfl, by decide, rfl, rfl, rfl⟩

end Relay

end SpaGateway
