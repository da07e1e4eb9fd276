import Mathlib.Data.List.DropRight
import Mathlib.Tactic
import SpaGateway.Config
import SpaGateway.Proofs.Address.RoundTrip

/-!
# Completing a target

A completed target ends in a port, and completing it once more changes nothing
(`GatewayConfig.completeTarget_isCompletion`).  `IsCompletion` says what becomes of which target.

Targets are socket addresses, IP addresses or anything else, and anything else may end in a colon
and a port.  The kinds overlap: `::1` ends in a port and is an IPv6 address.  What keeps a completed
target from being taken for another kind is that it ends in a port and is no IP address
(`IsComplete`).

* A socket address ends in a port (`SocketAddress.endsInPort_of_ofChars?`) and is no IP address
  (`IpAddress.ofChars?_of_socket`).
* A text with the default port behind it is no IP address, whatever it was before.  For the last
  piece of an IP address, behind its last colon, is a group of at most four digits or an IPv4 address
  with its dots (`IpAddress.endsInGroup_of_ofChars?`), and the default port has five digits.
-/

namespace SpaGateway

open Numeral

variable {s r host port : List Char} {c : Char}

/-! ## Texts without blanks at their ends -/

namespace Text

/-- No blank stands at either end. -/
structure IsTrimmed (s : List Char) : Prop where
  head : ∀ c ∈ s.head?, isBlank c = false
  last : ∀ c ∈ s.getLast?, isBlank c = false

lemma isTrimmed_trim (s : List Char) : IsTrimmed (trim s) where
  head c hc := by
    obtain ⟨t, ht⟩ : trim s <+: s.dropWhile isBlank := List.rdropWhile_prefix isBlank _
    have hhead : (s.dropWhile isBlank).head? = some c := by
      rw [← ht, List.head?_append, Option.mem_def.1 hc, Option.some_or]
    simpa [hhead] using List.head?_dropWhile_not isBlank s
  last c hc := by
    rw [trim, trimEnd, List.getLast?_reverse] at hc
    simpa [Option.mem_def.1 hc] using
      List.head?_dropWhile_not isBlank (s.dropWhile isBlank).reverse

lemma trim_eq_self (h : IsTrimmed s) : trim s = s := by
  have hdrop : ∀ {t : List Char}, (∀ c ∈ t.head?, isBlank c = false) →
      t.dropWhile isBlank = t := by
    intro t ht
    cases t with
    | nil => rfl
    | cons c t => exact List.dropWhile_cons_of_neg (by simp [ht c rfl])
  rw [trim, hdrop h.head, trimEnd, hdrop (by simpa using h.last), List.reverse_reverse]

end Text

/-! ## Texts that end in a port -/

namespace Target

/-- The text behind the last colon, all of it where there is no colon. -/
def lastPiece (s : List Char) : List Char := s.rtakeWhile (· ≠ ':')

lemma lastPiece_of_notMem (h : ':' ∉ s) : lastPiece s = s :=
  List.rtakeWhile_eq_self_iff.2 fun c hc => by
    simpa using fun heq : c = ':' => h (heq ▸ hc)

lemma lastPiece_append_colon (host port : List Char) :
    lastPiece (host ++ ':' :: port) = lastPiece port := by
  induction port using List.reverseRecOn with
  | nil => simp [lastPiece]
  | append_singleton port c ih =>
    rw [lastPiece, ← List.cons_append, ← List.append_assoc, List.rtakeWhile_concat, lastPiece,
      List.rtakeWhile_concat]
    split_ifs
    · exact congrArg (· ++ [c]) ih
    · rfl

lemma exists_last_colon (h : ':' ∈ s) : ∃ host port, s = host ++ ':' :: port ∧ ':' ∉ port := by
  obtain ⟨back, front, hs, hback⟩ := List.eq_append_cons_of_mem (List.mem_reverse.2 h)
  refine ⟨front.reverse, back.reverse, ?_, by simpa using hback⟩
  rw [← List.reverse_reverse s, hs]
  simp

/-- A text that ends in a colon and a port. -/
def EndsInPort (s : List Char) : Prop :=
  ∃ host port n, s = host ++ ':' :: port ∧ ':' ∉ port ∧ unsigned? 65536 port = some n

/-- A port is looked for where it is. -/
lemma hasPort_iff : hasPort s = true ↔ EndsInPort s := by
  have hlast : afterLastColon? s = if ':' ∈ s then some (lastPiece s) else none := rfl
  rw [hasPort, hlast]
  constructor
  · intro h
    split_ifs at h with hcolon
    · obtain ⟨host, port, rfl, hport⟩ := exists_last_colon hcolon
      rw [lastPiece_append_colon, lastPiece_of_notMem hport] at h
      obtain ⟨n, hn⟩ := Option.isSome_iff_exists.1 h
      exact ⟨host, port, n, rfl, hport, hn⟩
    · cases h
  · rintro ⟨host, port, n, rfl, hport, hn⟩
    rw [if_pos (by simp), lastPiece_append_colon, lastPiece_of_notMem hport, Option.bind_some, hn]
    rfl

/-- Digits behind a colon are a port if their value is one. -/
lemma endsInPort_append {digits : List Char} (host : List Char) (hne : digits ≠ [])
    (hdigits : ∀ c ∈ digits, isDigit 10 c = true) (hlt : value 10 digits < 65536) :
    EndsInPort (host ++ ':' :: digits) :=
  ⟨host, digits, _, rfl, fun hcolon => absurd (hdigits _ hcolon) (by decide),
    unsigned?_of_digits hne hdigits hlt⟩

lemma EndsInPort.colon_mem (h : EndsInPort s) : ':' ∈ s := by
  obtain ⟨host, port, n, rfl, -⟩ := h
  simp

lemma EndsInPort.of_suffix {t : List Char} (h : EndsInPort t) (hsuffix : t <:+ s) :
    EndsInPort s := by
  obtain ⟨front, rfl⟩ := hsuffix
  obtain ⟨host, port, n, rfl, hport, hn⟩ := h
  exact ⟨front ++ host, port, n, by simp, hport, hn⟩

end Target

/-! ## What readers of addresses take -/

namespace Address

open Target

variable {groups : List UInt16} {embedded isFirst : Bool}

/-- A text whose last piece is no longer than a group is, or is dotted as an IPv4 address. -/
def EndsInGroup (s : List Char) : Prop := (lastPiece s).length ≤ 4 ∨ '.' ∈ lastPiece s

instance : DecidablePred EndsInGroup := fun _ => inferInstanceAs (Decidable (_ ∨ _))

lemma endsInGroup_append_colon (host : List Char) :
    EndsInGroup (host ++ ':' :: port) ↔ EndsInGroup port := by
  rw [EndsInGroup, EndsInGroup, lastPiece_append_colon]

lemma endsInGroup_cons_colon : EndsInGroup (':' :: s) ↔ EndsInGroup s :=
  endsInGroup_append_colon []

lemma endsInGroup_separator : EndsInGroup (separator isFirst ++ s) ↔ EndsInGroup s := by
  cases isFirst with
  | true => rfl
  | false => exact endsInGroup_cons_colon

lemma colon_notMem_ipv4 (ip : Ipv4) : ':' ∉ ip.toChars := by
  have hoctet : ∀ n, ':' ∉ decimal n := fun n h =>
    absurd (isDigit_of_mem_toDigits (by decide) (by decide) n _ h) (by decide)
  simp [Ipv4.toChars, hoctet]

lemma endsInGroup_ipv4 (ip : Ipv4) : EndsInGroup ip.toChars := by
  refine .inr ?_
  rw [lastPiece_of_notMem (colon_notMem_ipv4 ip)]
  simp [Ipv4.toChars]

lemma exists_of_takeEmbedded? (h : takeEmbedded? isFirst s = some (groups, r)) :
    ∃ ip : Ipv4, s = separator isFirst ++ (ip.toChars ++ r) := by
  simp only [takeEmbedded?, Option.bind_eq_bind, Option.bind_eq_some_iff, Option.some.injEq,
    Prod.mk.injEq, takeSeparator?_eq_some_iff] at h
  obtain ⟨_, rfl, ⟨ip, _⟩, hip, -, rfl⟩ := h
  exact ⟨ip, by rw [(takeIpv4?_eq_some_iff.1 hip).1]⟩

lemma exists_of_takeGroup? {g : UInt16} (h : takeGroup? isFirst s = some (g, r)) :
    ∃ digits, IsNumeral 16 (some 4) true digits ∧ s = separator isFirst ++ (digits ++ r) := by
  simp only [takeGroup?, Option.bind_eq_bind, Option.bind_eq_some_iff, Option.some.injEq,
    Prod.mk.injEq, takeSeparator?_eq_some_iff] at h
  obtain ⟨_, rfl, ⟨n, _⟩, hn, -, rfl⟩ := h
  obtain ⟨digits, hdigits, -, rfl, -⟩ := takeNumber?_eq_some_iff.1 hn
  exact ⟨digits, hdigits, rfl⟩

/-- What can be taken as groups: it ends in one, and a colon leads it if others are in front. -/
structure IsRunOfGroups (isFirst : Bool) (s : List Char) : Prop where
  endsInGroup : EndsInGroup s
  led : isFirst = false → s = [] ∨ ∃ t, s = ':' :: t

lemma isRunOfGroups_nil : IsRunOfGroups isFirst [] :=
  ⟨.inl (by decide), fun _ => .inl rfl⟩

lemma isRunOfGroups_separator (h : EndsInGroup s) :
    IsRunOfGroups isFirst (separator isFirst ++ s) where
  endsInGroup := endsInGroup_separator.2 h
  led := by
    rintro rfl
    exact .inr ⟨s, rfl⟩

/-- A group may stand in front of further ones. -/
lemma IsRunOfGroups.endsInGroup_append {digits : List Char} (h : IsRunOfGroups false s)
    (hdigits : IsNumeral 16 (some 4) true digits) : EndsInGroup (digits ++ s) := by
  rcases h.led rfl with rfl | ⟨t, rfl⟩
  · have hcolon : ':' ∉ digits := fun hmem => absurd (hdigits.isDigit _ hmem) (by decide)
    rw [List.append_nil, EndsInGroup, lastPiece_of_notMem hcolon]
    exact .inl (hdigits.length_le 4 rfl)
  · exact (endsInGroup_append_colon _).2 (endsInGroup_cons_colon.1 h.endsInGroup)

/-- What is taken as groups is such a run. -/
lemma exists_of_takeGroups {limit : Nat}
    (h : takeGroups limit isFirst s = (groups, embedded, r)) :
    ∃ taken, s = taken ++ r ∧ IsRunOfGroups isFirst taken := by
  induction limit generalizing isFirst s groups with
  | zero =>
    cases h
    exact ⟨[], rfl, isRunOfGroups_nil⟩
  | succ limit ih =>
    rw [takeGroups] at h
    split at h
    case h_1 found rest hfound =>
      split_ifs at hfound
      obtain ⟨ip, rfl⟩ := exists_of_takeEmbedded? hfound
      cases h
      exact ⟨separator isFirst ++ ip.toChars, by simp,
        isRunOfGroups_separator (endsInGroup_ipv4 ip)⟩
    case h_2 =>
      split at h
      case h_1 g rest hg =>
        obtain ⟨digits, hdigits, rfl⟩ := exists_of_takeGroup? hg
        cases h
        obtain ⟨taken, hrest, htaken⟩ := ih rfl
        exact ⟨separator isFirst ++ (digits ++ taken), by simpa using hrest,
          isRunOfGroups_separator (htaken.endsInGroup_append hdigits)⟩
      case h_2 =>
        cases h
        exact ⟨[], rfl, isRunOfGroups_nil⟩

/-- What is taken as an IPv6 address ends in a group, as nothing but colons is between two runs. -/
lemma exists_of_takeIpv6? {ip : Ipv6} (h : takeIpv6? s = some (ip, r)) :
    ∃ taken, s = taken ++ r ∧ EndsInGroup taken := by
  rw [takeIpv6?] at h
  rcases hfront : takeGroups 8 true s with ⟨front, embedded, t⟩
  obtain ⟨taken, rfl, htaken⟩ := exists_of_takeGroups hfront
  rw [hfront] at h
  dsimp only at h
  split_ifs at h
  · obtain ⟨_, -, h⟩ := Option.map_eq_some_iff.1 h
    cases h
    exact ⟨taken, rfl, htaken.endsInGroup⟩
  · simp only [Option.bind_eq_bind, Option.bind_eq_some_iff, takeChar?_eq_some_iff] at h
    obtain ⟨_, rfl, u, rfl, h⟩ := h
    rcases hback : takeGroups (7 - front.length) true u with ⟨back, _, v⟩
    obtain ⟨taken', rfl, htaken'⟩ := exists_of_takeGroups hback
    rw [hback] at h
    obtain ⟨_, -, h⟩ := Option.map_eq_some_iff.1 h
    cases h
    refine ⟨taken ++ ':' :: ':' :: taken', by simp, ?_⟩
    exact (endsInGroup_append_colon _).2 (endsInGroup_cons_colon.2 htaken'.endsInGroup)

lemma whole?_eq_some_iff {α : Type} {found : Option (α × List Char)} {a : α} :
    whole? found = some a ↔ found = some (a, []) := by
  rcases found with - | ⟨b, - | ⟨c, s⟩⟩ <;> simp [whole?]

/-! ## Sockets and addresses -/

lemma endsInPort_of_takePort? {port : UInt16} (h : takePort? s = some (port, [])) :
    EndsInPort s := by
  simp only [takePort?, Option.bind_eq_bind, Option.bind_eq_some_iff, takeChar?_eq_some_iff,
    Option.ite_none_right_eq_some] at h
  obtain ⟨_, rfl, ⟨n, rest⟩, hn, hlt, h⟩ := h
  cases h
  obtain ⟨digits, hdigits, -, rfl, rfl⟩ := takeNumber?_eq_some_iff.1 hn
  rw [List.append_nil]
  exact endsInPort_append [] hdigits.ne_nil hdigits.isDigit hlt

lemma takeScope_suffix (s : List Char) : (takeScope s).2 <:+ s := by
  have hget : ∀ scope? : Option (UInt32 × List Char),
      (∀ found ∈ scope?, found.2 <:+ s) → (scope?.getD (0, s)).2 <:+ s := by
    rintro (_ | found) h
    · exact List.suffix_rfl
    · exact h found rfl
  refine hget _ fun found hfound => ?_
  simp only [Option.mem_def, Option.bind_eq_bind, Option.bind_eq_some_iff, takeChar?_eq_some_iff,
    Option.ite_none_right_eq_some] at hfound
  obtain ⟨_, rfl, ⟨n, rest⟩, hn, -, h⟩ := hfound
  cases h
  obtain ⟨digits, -, -, rfl, -⟩ := takeNumber?_eq_some_iff.1 hn
  exact List.suffix_append ('%' :: digits) rest

lemma endsInPort_of_takeSocketV4? {address : SocketAddress}
    (h : takeSocketV4? s = some (address, [])) : EndsInPort s := by
  simp only [takeSocketV4?, Option.bind_eq_bind, Option.bind_eq_some_iff] at h
  obtain ⟨⟨ip, t⟩, hip, ⟨port, u⟩, hport, h⟩ := h
  cases h
  obtain ⟨rfl, -⟩ := takeIpv4?_eq_some_iff.1 hip
  exact (endsInPort_of_takePort? hport).of_suffix (List.suffix_append _ _)

lemma endsInPort_of_takeSocketV6? {address : SocketAddress}
    (h : takeSocketV6? s = some (address, [])) : EndsInPort s := by
  simp only [takeSocketV6?, Option.bind_eq_bind, Option.bind_eq_some_iff,
    takeChar?_eq_some_iff] at h
  obtain ⟨t, rfl, ⟨ip, u⟩, hip, v, hscope, ⟨port, w⟩, hport, h⟩ := h
  cases h
  obtain ⟨taken, rfl, -⟩ := exists_of_takeIpv6? hip
  refine (endsInPort_of_takePort? hport).of_suffix ?_
  calc v
    _ <:+ (takeScope u).2 := hscope ▸ List.suffix_cons _ _
    _ <:+ u := takeScope_suffix u
    _ <:+ '[' :: (taken ++ u) := List.suffix_append ('[' :: taken) u

end Address

open Address

/-- An IPv4 address is read just where it is written. -/
lemma IpAddress.ofChars?_eq_some_v4_iff {ip : Ipv4} :
    IpAddress.ofChars? s = some (.v4 ip) ↔ s = ip.toChars := by
  rw [ofChars?, whole?_eq_some_iff]
  constructor
  · intro h
    split at h
    case h_1 ip' r hip =>
      cases h
      simpa using (takeIpv4?_eq_some_iff.1 hip).1
    case h_2 => simp at h
  · rintro rfl
    have hip : takeIpv4? ip.toChars = some (ip, []) := takeIpv4?_eq_some_iff.2 ⟨by simp, by simp⟩
    rw [hip]

lemma IpAddress.takeIpv6?_of_ofChars? {ip : Ipv6} (h : IpAddress.ofChars? s = some (.v6 ip)) :
    takeIpv4? s = none ∧ takeIpv6? s = some (ip, []) := by
  rw [ofChars?, whole?_eq_some_iff] at h
  split at h
  case h_1 ip' r hip => simp at h
  case h_2 hip =>
    obtain ⟨⟨ip', r⟩, hip', h⟩ := Option.map_eq_some_iff.1 h
    cases h
    exact ⟨hip, hip'⟩

lemma IpAddress.endsInGroup_of_ofChars? {ip : IpAddress} (h : IpAddress.ofChars? s = some ip) :
    EndsInGroup s := by
  cases ip with
  | v4 ip =>
    obtain rfl := IpAddress.ofChars?_eq_some_v4_iff.1 h
    exact endsInGroup_ipv4 ip
  | v6 ip =>
    obtain ⟨taken, rfl, htaken⟩ := exists_of_takeIpv6? (IpAddress.takeIpv6?_of_ofChars? h).2
    rwa [List.append_nil]

lemma SocketAddress.endsInPort_of_ofChars? {address : SocketAddress}
    (h : SocketAddress.ofChars? s = some address) : Target.EndsInPort s := by
  rw [ofChars?, whole?_eq_some_iff] at h
  split at h
  case h_1 found hv4 => exact endsInPort_of_takeSocketV4? (hv4.trans h)
  case h_2 => exact endsInPort_of_takeSocketV6? h

/-- No text is both a socket address and an IP address. -/
lemma IpAddress.ofChars?_of_socket {address : SocketAddress}
    (h : SocketAddress.ofChars? s = some address) : IpAddress.ofChars? s = none := by
  have hport := SocketAddress.endsInPort_of_ofChars? h
  rw [SocketAddress.ofChars?, whole?_eq_some_iff] at h
  rw [Option.eq_none_iff_forall_ne_some]
  rintro (ip | ip) hip
  · obtain rfl := IpAddress.ofChars?_eq_some_v4_iff.1 hip
    exact colon_notMem_ipv4 ip hport.colon_mem
  · obtain ⟨hv4, hv6⟩ := IpAddress.takeIpv6?_of_ofChars? hip
    have hsocket : takeSocketV4? s = none := by
      rw [takeSocketV4?, hv4]
      rfl
    rw [hsocket] at h
    -- a bracket leads the one and never the other
    obtain ⟨t, rfl⟩ : ∃ t, s = '[' :: t := by
      simp only [takeSocketV6?, Option.bind_eq_bind, Option.bind_eq_some_iff,
        takeChar?_eq_some_iff] at h
      obtain ⟨t, rfl, -⟩ := h
      exact ⟨t, rfl⟩
    have hgroups := takeGroups_of_stopsRun 8 true (s := '[' :: t)
      (stopsRun_cons rfl (by decide) (by decide))
    simp [takeIpv6?, hgroups, takeChar?] at hv6

/-! ## Completion -/

namespace Target

open Text

/-- What is left as it is: a text with a port at its end that is no IP address. -/
structure IsComplete (s : List Char) : Prop where
  isTrimmed : IsTrimmed s
  endsInPort : EndsInPort s
  no_ipAddress : IpAddress.ofChars? s = none

lemma isComplete_of_socket (hs : IsTrimmed s) (h : (SocketAddress.ofChars? s).isSome) :
    IsComplete s := by
  obtain ⟨address, h⟩ := Option.isSome_iff_exists.1 h
  exact ⟨hs, SocketAddress.endsInPort_of_ofChars? h, IpAddress.ofChars?_of_socket h⟩

/-- Such a text stays as it is. -/
lemma IsComplete.completeChars_eq (h : IsComplete s) : completeChars s = s := by
  rw [completeChars, trim_eq_self h.isTrimmed, h.no_ipAddress, if_pos (hasPort_iff.2 h.endsInPort),
    ite_self]

lemma defaultPort_text : ':' :: decimal defaultPort.toNat = ":10022".toList := by decide

/-- A text with the default port behind it is complete. The port is too long for a group. -/
lemma isComplete_append_defaultPort (hs : ∀ c ∈ s.head?, isBlank c = false) :
    IsComplete (s ++ ":10022".toList) where
  isTrimmed := by
    constructor
    · cases s with
      | nil =>
        rintro c ⟨⟩
        rfl
      | cons c s => exact hs
    · rw [List.getLast?_append_of_ne_nil _ (by decide)]
      rintro c ⟨⟩
      rfl
  endsInPort := by
    rw [← defaultPort_text]
    refine endsInPort_append s Nat.toDigits_ne_nil
      (isDigit_of_mem_toDigits (by decide) (by decide) _) ?_
    rw [decimal, value_toDigits (by decide) (by decide)]
    exact defaultPort.toNat_lt
  no_ipAddress := by
    rw [Option.eq_none_iff_forall_ne_some]
    intro ip hip
    have hgroup : EndsInGroup "10022".toList :=
      (endsInGroup_append_colon _).1 (IpAddress.endsInGroup_of_ofChars? hip)
    exact absurd hgroup (by decide)

/-- What completing makes of a text `s` without blanks at its ends. -/
structure IsCompletion (s r : List Char) : Prop where
  /-- A socket address is complete. -/
  of_socket : (SocketAddress.ofChars? s).isSome → r = s
  /-- So is anything else with a port at its end, unless it is an IPv6 address. -/
  of_port : IpAddress.ofChars? s = none → EndsInPort s → r = s
  /-- An IPv4 address gets the default port. -/
  of_ipv4 : ∀ ip, IpAddress.ofChars? s = some (.v4 ip) → r = s ++ ":10022".toList
  /-- So does an IPv6 address, which is put in brackets and written in its shortest form. It is
  still the same address. -/
  of_ipv6 : ∀ ip, IpAddress.ofChars? s = some (.v6 ip) →
    r = '[' :: ip.toChars ++ ']' :: ":10022".toList ∧
      SocketAddress.ofChars? r = some (.v6 ip 0 10022)
  /-- Anything else gets the default port as it is. -/
  of_other : IpAddress.ofChars? s = none → ¬ EndsInPort s → r = s ++ ":10022".toList

lemma completeChars_of_ipAddress {ip : IpAddress} (h : IpAddress.ofChars? s = some ip)
    (hs : IsTrimmed s) : completeChars s = (ip.withPort defaultPort).toChars := by
  have hsocket : SocketAddress.ofChars? s = none := by
    rw [Option.eq_none_iff_forall_ne_some]
    intro address haddress
    rw [IpAddress.ofChars?_of_socket haddress] at h
    cases h
  rw [completeChars, trim_eq_self hs, hsocket, h]
  rfl

lemma toChars_withPort_v4 (ip : Ipv4) :
    ((IpAddress.v4 ip).withPort defaultPort).toChars = ip.toChars ++ ":10022".toList := by
  rw [← defaultPort_text]
  rfl

lemma toChars_withPort_v6 (ip : Ipv6) :
    ((IpAddress.v6 ip).withPort defaultPort).toChars =
      '[' :: ip.toChars ++ ']' :: ":10022".toList := by
  rw [← defaultPort_text]
  simp [IpAddress.withPort, SocketAddress.toChars]

lemma completeChars_of_other (hip : IpAddress.ofChars? s = none) (hport : ¬ EndsInPort s)
    (hs : IsTrimmed s) : completeChars s = s ++ ":10022".toList := by
  have hsocket : SocketAddress.ofChars? s = none := by
    rw [Option.eq_none_iff_forall_ne_some]
    exact fun address haddress => hport (SocketAddress.endsInPort_of_ofChars? haddress)
  rw [completeChars, trim_eq_self hs, hsocket, hip, if_neg (mt hasPort_iff.1 hport),
    ← defaultPort_text]
  rfl

lemma isCompletion_completeChars (hs : IsTrimmed s) : IsCompletion s (completeChars s) where
  of_socket h := (isComplete_of_socket hs h).completeChars_eq
  of_port hip hport := IsComplete.completeChars_eq ⟨hs, hport, hip⟩
  of_ipv4 ip hip := by
    rw [completeChars_of_ipAddress hip hs, toChars_withPort_v4,
      ← IpAddress.ofChars?_eq_some_v4_iff.1 hip]
  of_ipv6 ip hip := by
    rw [completeChars_of_ipAddress hip hs]
    exact ⟨toChars_withPort_v6 ip, SocketAddress.ofChars?_toChars _⟩
  of_other hip hport := completeChars_of_other hip hport hs

lemma isComplete_completeChars (hs : IsTrimmed s) : IsComplete (completeChars s) := by
  cases hip : IpAddress.ofChars? s with
  | none =>
    by_cases hport : EndsInPort s
    · have hcomplete : IsComplete s := ⟨hs, hport, hip⟩
      rwa [hcomplete.completeChars_eq]
    · rw [completeChars_of_other hip hport hs]
      exact isComplete_append_defaultPort hs.head
  | some ip =>
    have hcompletion := isCompletion_completeChars hs
    cases ip with
    | v4 ip =>
      rw [hcompletion.of_ipv4 ip hip]
      exact isComplete_append_defaultPort hs.head
    | v6 ip =>
      have htext : completeChars s = '[' :: (ip.toChars ++ [']']) ++ ":10022".toList := by
        rw [(hcompletion.of_ipv6 ip hip).1]
        simp
      rw [htext]
      refine isComplete_append_defaultPort ?_
      rintro c ⟨⟩
      decide

end Target

open Target

/-- **A completed target ends in a port and stays as it is if it is completed again.** Up to the
blanks at its ends, the target is left alone where it has a port and gets the default port where it
has none. -/
theorem GatewayConfig.completeTarget_isCompletion (config : GatewayConfig) :
    EndsInPort config.completeTarget.toList ∧
      { config with target := config.completeTarget }.completeTarget = config.completeTarget ∧
      IsCompletion (Text.trim config.target.toList) config.completeTarget.toList := by
  have hs := Text.isTrimmed_trim config.target.toList
  have htext : config.completeTarget.toList = completeChars (Text.trim config.target.toList) := by
    rw [completeTarget, complete, String.toList_ofList, completeChars, completeChars,
      Text.trim_eq_self hs]
  have hcomplete := isComplete_completeChars hs
  refine ⟨?_, ?_, ?_⟩
  · rw [htext]
    exact hcomplete.endsInPort
  · rw [completeTarget, complete]
    dsimp only
    rw [htext, hcomplete.completeChars_eq, ← htext, String.ofList_toList]
  · rw [htext]
    exact isCompletion_completeChars hs

example : complete " 0:0:0:0:0:0:0:1 " = "[::1]:10022" := by decide

end SpaGateway
