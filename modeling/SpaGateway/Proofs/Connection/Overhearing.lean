import Mathlib.Tactic
import SpaGateway.Proofs.Connection.Mirror
import SpaGateway.Proofs.Payload.Bijection
import SpaGateway.Proofs.Relay.Agreement
import SpaGateway.Proofs.Relay.Takeover

/-!
# Pushes for others

A spa reports changes of its memory to each app by itself.  A relay that has a connection on its
local link shows it those reports as well, so that its image keeps up with changes that others asked
for.  Two filters work on this, one after the other and by different criteria.  The relay goes by
the tag of the content, and the connection by the destination and what the content is read as.

`Relay.overheard_once` says that together they do exactly this: the app gets its datagram, and of
whatever comes for the app nothing but the changes of a push reaches the connection's image, once
and in order.  Nothing else of the connection moves, and it only tells its feed.
-/

namespace SpaGateway

/-! ## What is shown to the local link -/

/-- Whether a content is a push, judged by its tag alone. -/
def Content.isPush : Content → Bool
  | data payload => Payload.isStatusPush payload
  | _ => false

/-- The updates that a content asks for, if it is a push. -/
def Content.updates : Content → List MemoryUpdate
  | data payload => pushUpdates payload
  | _ => []

/-- What is read as a push has the tag of one. -/
lemma Payload.isStatusPush_of_parse? {payload : Octets} {changes : List StatusChange}
    (h : parse? payload = some (.statusPush changes)) : isStatusPush payload = true := by
  obtain ⟨-, rfl⟩ := compose_eq_of_parse? h
  rw [isStatusPush, Octets.startsWith, compose, List.append_assoc, Octets.dropLead?_append]
  rfl

/-- Without the tag of a push, a content asks for no update. -/
lemma Content.updates_eq_nil {content : Content} (h : content.isPush = false) :
    content.updates = [] := by
  cases content with
  | ping | pong => rfl
  | data payload =>
    rw [updates, pushUpdates]
    split
    · rename_i changes hparse
      rw [isPush, Payload.isStatusPush_of_parse? hparse] at h
      cases h
    · rfl

namespace Relay

variable {r : Relay} {id datagram : Octets} {source : Option Octets} {content : Content}
  {address : SocketAddress}

/-- Of what the spa sends to an app, the local link is shown what has the tag of a push. -/
lemma delivered_of_client (hr : r.IsReachable)
    (hmapped : r.forwards.peer? id = some (.client address)) {queued : Nat}
    (hqueued : r.localQueued = some queued) (hroom : queued < localCapacity)
    (hdecode : Frame.decodeDatagram datagram = .ok (.authorized source (some id) content))
    (now : Nat) : r.delivered r.spa datagram now =
      if content.isPush then [.authorized source (some id) content] else [] := by
  rw [delivered, r.effects_react_authorized hdecode now, hmapped]
  have hclients := hr.hasClients hmapped
  cases content with
  | ping | pong => simp [route, Content.isPush, hclients, RelayEffect.toLocal?]
  | data payload =>
    cases hpush : Payload.isStatusPush payload <;>
      simp [route, Content.isPush, hpush, hclients, deliverLocal, hqueued, hroom,
        RelayEffect.toLocal?, List.filterMap_cons]

/-- What the spa sends to an app goes to the app as it is, and nothing goes to the spa. -/
lemma datagrams_of_client (hr : r.IsReachable)
    (hmapped : r.forwards.peer? id = some (.client address))
    (hdecode : Frame.decodeDatagram datagram = .ok (.authorized source (some id) content))
    (now : Nat) :
    let sent := (r.react now (.spaSocket r.spa datagram)).2
    sent.filterMap RelayEffect.toClient? = [(address, datagram)] ∧
      sent.filterMap RelayEffect.toSpa? = [] := by
  intro sent
  have hreaction := reaction_react hr.isOneToOne now (.spaSocket r.spa datagram)
  have hforClient : (r.downstream? (.spaSocket r.spa datagram)).bind r.forClient? =
      some (address, datagram) :=
    forClient?_eq_some_iff.2
      ⟨hr.hasClients hmapped, rfl, source, id, content, hdecode, hmapped⟩
  constructor
  · rw [hreaction.toClient_eq, hforClient]
    rfl
  · exact hreaction.toSpa_eq

end Relay

/-! ## What the connection makes of it -/

/-- Whether an effect tells the subscribers something. -/
def Effect.IsFeed : Effect → Prop
  | feed _ => True
  | _ => False

namespace Turn

variable (t : Turn)

lemma effects_applyUpdate (address : UInt16) (data : Octets) :
    ∃ told, (t.applyUpdate address data).effects = t.effects ++ told ∧
      ∀ effect ∈ told, effect.IsFeed := by
  unfold applyUpdate
  split
  · rename_i image changes _
    rw [effects_foldl_changed]
    refine ⟨_, rfl, ?_⟩
    intro effect heffect
    obtain ⟨change, -, rfl⟩ := List.mem_map.1 heffect
    trivial
  · refine ⟨[_], rfl, ?_⟩
    intro effect heffect
    obtain rfl := List.mem_singleton.1 heffect
    trivial

/-- To take a push is to tell of its changes, and no more. -/
lemma effects_applyPush (changes : List StatusChange) :
    ∃ told, (t.applyPush changes).effects = t.effects ++ told ∧
      ∀ effect ∈ told, effect.IsFeed := by
  induction changes generalizing t with
  | nil => exact ⟨[], (List.append_nil _).symm, by simp⟩
  | cons change changes ih =>
    obtain ⟨first, hfirst, hfeed⟩ := t.effects_applyUpdate change.position change.data
    obtain ⟨rest, hrest, hfeeds⟩ := ih (t.applyUpdate change.position change.data)
    refine ⟨first ++ rest, ?_, List.forall_mem_append.2 ⟨hfeed, hfeeds⟩⟩
    rw [applyPush, List.foldl_cons, ← applyPush, hrest, hfirst, List.append_assoc]

end Turn

namespace Connection

variable {c : Connection}

/-- Data for others change the image by the updates that they ask for, and are not answered. -/
lemma onPackage_of_foreign {package : Package} {payload : Octets}
    (h : c.foreignData? package = some payload) (m : Moment) :
    (c.onPackage m package).connection =
        { c with image := (pushUpdates payload).foldl MemoryImage.absorb c.image } ∧
      ∀ effect ∈ (c.onPackage m package).effects, effect.IsFeed := by
  have hquiet : ∃ image, (c.onPackage m package).connection = { c with image } ∧
      ∀ effect ∈ (c.onPackage m package).effects, effect.IsFeed := by
    rw [onPackage, h]
    dsimp only
    split
    · rename_i changes _
      obtain ⟨image, himage⟩ := Turn.connection_applyPush { connection := c } changes
      obtain ⟨told, htold, hfeeds⟩ := Turn.effects_applyPush { connection := c } changes
      rw [List.nil_append] at htold
      exact ⟨image, himage, htold ▸ hfeeds⟩
    · exact ⟨c.image, rfl, by simp⟩
  obtain ⟨image, hconnection, hfeeds⟩ := hquiet
  have himage := (memoryStep_of_foreign m h).image_eq
  rw [Option.toList_none, List.append_nil] at himage
  have hsame : image = (pushUpdates payload).foldl MemoryImage.absorb c.image :=
    (congrArg Connection.image hconnection).symm.trans himage
  rw [hconnection, hsame]
  exact ⟨rfl, hfeeds⟩

end Connection

namespace Host

/-- A connection that takes data for others in runs on, and changes its image alone. -/
lemma run_arrive_of_foreign {h : Host} (hh : h.IsReachable) (hrunning : h.isRunning = true)
    {package : Package} {payload : Octets}
    (hforeign : h.connection.foreignData? package = some payload) (m : Moment) :
    let h' := h.run [⟨.arrive package, m⟩]
    h'.connection = { h.connection with
        image := (pushUpdates payload).foldl MemoryImage.absorb h.connection.image } ∧
      h'.isRunning = true ∧ ∃ told, h'.log = h.log ++ told ∧ ∀ effect ∈ told, effect.IsFeed := by
  intro h'
  obtain ⟨hconnection, hfeeds⟩ := Connection.onPackage_of_foreign hforeign m
  -- the image is not among what the connection waits for
  have hlasts : (h.connection.onPackage m package).connection.outlastsClock = false := by
    rw [hconnection]
    exact hh.outlastsClock hrunning
  have hadopted : h' = h.record (h.connection.onPackage m package) := by
    show h.reactAt m (.package package) = _
    rw [reactAt, if_pos hrunning, Connection.react, adopt_eq, hlasts, if_neg Bool.false_ne_true]
  rw [hadopted]
  exact ⟨hconnection, hrunning, _, rfl, hfeeds⟩

end Host

/-! ## Both together -/

namespace Relay

/-- **Pushes for others reach the image once, and nothing else does.**  Take a relay in any state
that it can get into, with room for a package to the local link, and any connection that runs on
that link.  What the spa sends to the id of an app, other than the key of the connection, goes to
the app as it is, and nothing goes to the spa.  The connection takes what it is shown of it, and
then its image has absorbed the changes of the content if that is a push, one by one and each once,
and it is the same if it is not.  Nothing else of the connection has changed, and it did nothing but
tell its subscribers. -/
theorem overheard_once {r : Relay} (hr : r.IsReachable) {queued : Nat}
    (hqueued : r.localQueued = some queued) (hroom : queued < localCapacity)
    {datagram id : Octets} {source : Option Octets} {content : Content}
    (hdecode : Frame.decodeDatagram datagram = .ok (.authorized source (some id) content))
    {address : SocketAddress} (hmapped : r.forwards.peer? id = some (.client address))
    {h : Host} (hh : h.IsReachable) (hrunning : h.isRunning = true)
    (hother : id ≠ h.connection.session.key) (now : Nat) (m : Moment) :
    let sent := (r.react now (.spaSocket r.spa datagram)).2
    let shown := r.delivered r.spa datagram now
    let h' := h.run (shown.map fun package => ⟨.arrive package, m⟩)
    sent.filterMap RelayEffect.toClient? = [(address, datagram)] ∧
      sent.filterMap RelayEffect.toSpa? = [] ∧
      h'.connection = { h.connection with
        image := content.updates.foldl MemoryImage.absorb h.connection.image } ∧
      h'.isRunning = true ∧ ∃ told, h'.log = h.log ++ told ∧ ∀ effect ∈ told, effect.IsFeed := by
  intro sent shown h'
  obtain ⟨htoClient, htoSpa⟩ := datagrams_of_client hr hmapped hdecode now
  refine ⟨htoClient, htoSpa, ?_⟩
  have hshown : shown = if content.isPush then [.authorized source (some id) content] else [] :=
    delivered_of_client hr hmapped hqueued hroom hdecode now
  cases hpush : content.isPush with
  | false =>
    have hsame : h' = h := by
      simp [h', hshown, hpush]
    rw [hsame, Content.updates_eq_nil hpush]
    exact ⟨rfl, hrunning, [], (List.append_nil _).symm, by simp⟩
  | true =>
    have hone : h' = h.run [⟨.arrive (.authorized source (some id) content), m⟩] := by
      simp [h', hshown, hpush]
    rw [hone]
    cases content with
    | ping | pong => cases hpush
    | data payload =>
      have hforeign : h.connection.foreignData?
          (.authorized source (some id) (.data payload)) = some payload := if_neg hother
      exact Host.run_arrive_of_foreign hh hrunning hforeign m

/-- The spa pushes two changes to an app, the second of which runs past the end of the connection's
image: the image has absorbed the first one. -/
theorem overheard_once_in_bounds :
    let spa : SocketAddress := .v4 ⟨10, 0, 0, 1⟩ 10022
    let app : SocketAddress := .v4 ⟨10, 0, 0, 2⟩ 20000
    let speech := Frame.encode (.authorized (some [0x62]) (some [0x53]) .ping)
    let r := List.foldl handle (create {} spa [0x53, helloDelimiter] true true)
      [⟨0, .clientSocket app speech⟩]
    let push := (Payload.statusPush [⟨1, 7, 8⟩, ⟨3, 9, 9⟩]).compose
    let datagram := Frame.encode (.authorized none (some [0x62]) (.data push))
    ∃ h, Host.startAt { memorySize := some 4 } [0x6b] { now := 0 } = .ok h ∧
      (r.react 1 (.spaSocket spa datagram)).2.filterMap RelayEffect.toClient? =
        [(app, datagram)] ∧
      (h.run ((r.delivered spa datagram 1).map fun package =>
        ⟨.arrive package, { now := 1 }⟩)).connection.image.cells =
          [none, some 7, some 8, none] := by
  intro spa app speech r push datagram
  have hr : r.IsReachable := ⟨{}, spa, _, true, true, _, rfl⟩
  have hqueued : r.localQueued = some 0 := rfl
  have hmapped : r.forwards.peer? [0x62] = some (.client app) := rfl
  have hdecode : Frame.decodeDatagram datagram =
      .ok (.authorized none (some [0x62]) (.data push)) := rfl
  have hbegun : ∃ h, Host.startAt { memorySize := some 4 } [0x6b] { now := 0 } = .ok h ∧
      h.isRunning = true ∧ h.connection.session.key = [0x6b] ∧ h.connection.image = .empty 4 :=
    ⟨_, rfl, by decide +kernel, by decide +kernel, by decide +kernel⟩
  obtain ⟨h, hstart, hrunning, hkey, hempty⟩ := hbegun
  have hother : [0x62] ≠ h.connection.session.key := by
    rw [hkey]
    decide
  have hh : h.IsReachable := ⟨_, _, _, h, [], hstart, rfl⟩
  obtain ⟨htoClient, -, hconnection, -⟩ := overheard_once hr hqueued (by decide) hdecode hmapped
    hh hrunning hother 1 { now := 1 }
  rw [hempty] at hconnection
  exact ⟨h, hstart, htoClient,
    congrArg (fun c : Connection => c.image.cells) hconnection⟩

end Relay

end SpaGateway
