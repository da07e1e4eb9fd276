import Mathlib.Tactic
import SpaGateway.Address.Parser
import SpaGateway.Proofs.Payload.Layout
import SpaGateway.Proofs.Text.Numeral

/-!
# Addresses that are read back

A socket address is read back from what is written for it (`SocketAddress.ofChars?_toChars`).

For IPv4 addresses reading and writing are inverse (`takeIpv4?_eq_some_iff`), superfluous zeros
being refused.  An IPv6 address has many spellings, of which only the shortest is written.  It is
read in runs of groups.  A run is read to its end just if nothing behind it could go on with it: no
digit goes on with its last group, no dot makes that group an octet, and no group stands behind a
colon (`StopsRun`).  Two colons stop a run too.  So an address with zeros left out is read as a run
in front of them and one behind, and what is missing to eight groups is zero again
(`longestZeros_spec`).
-/

namespace SpaGateway

namespace Address

open Numeral

variable {s r rest : List Char} {c : Char} {limit : Nat} {isFirst : Bool} {g : UInt16}

/-! ## IPv4 -/

@[simp]
lemma takeChar?_eq_some_iff : takeChar? c s = some r ↔ s = c :: r := by
  cases s with
  | nil => simp [takeChar?]
  | cons d s =>
    simp only [takeChar?, Option.ite_none_right_eq_some, Option.some.injEq, List.cons.injEq]

/-- An octet is read just where it is written and no digit follows. -/
lemma takeOctet?_eq_some_iff {b : UInt8} :
    takeOctet? s = some (b, r) ↔ s = decimal b.toNat ++ r ∧ NoDigitAhead 10 r := by
  constructor
  · intro h
    simp only [takeOctet?, Option.bind_eq_bind, Option.bind_eq_some_iff,
      Option.ite_none_right_eq_some] at h
    obtain ⟨⟨n, rest⟩, hn, hlt, h⟩ := h
    obtain ⟨rfl, rfl⟩ := Prod.mk.inj (Option.some.inj h)
    obtain ⟨digits, hdigits, hrest, rfl, rfl⟩ := takeNumber?_eq_some_iff.1 hn
    have hvalue : (value 10 digits).toUInt8.toNat = value 10 digits := Nat.mod_eq_of_lt hlt
    rw [hvalue, decimal_value hdigits]
    exact ⟨rfl, hrest⟩
  · rintro ⟨rfl, hr⟩
    have hmost : ∀ m ∈ some 3, 0 < m ∧ b.toNat < 10 ^ m := by
      simpa using b.toNat_lt.trans (by decide : 256 < 1000)
    rw [takeOctet?, decimal, takeNumber?_toDigits (by decide) (by decide) hmost hr]
    simp [b.toNat_lt]

/-- **An IPv4 address is read just where it is written and no digit follows.** -/
theorem takeIpv4?_eq_some_iff {ip : Ipv4} :
    takeIpv4? s = some (ip, r) ↔ s = ip.toChars ++ r ∧ NoDigitAhead 10 r := by
  have hdot : ∀ s, NoDigitAhead 10 ('.' :: s) := fun s => noDigitAhead_cons.2 rfl
  obtain ⟨a, b, c, d⟩ := ip
  simp only [takeIpv4?, Option.bind_eq_bind, Option.bind_eq_some_iff, Prod.exists,
    takeOctet?_eq_some_iff, takeChar?_eq_some_iff, Option.some.injEq, Prod.mk.injEq,
    Ipv4.mk.injEq, Ipv4.toChars]
  constructor
  · rintro ⟨_, _, ⟨rfl, -⟩, _, rfl, _, _, ⟨rfl, -⟩, _, rfl, _, _, ⟨rfl, -⟩, _, rfl, _, _,
      ⟨rfl, hr⟩, ⟨rfl, rfl, rfl, rfl⟩, rfl⟩
    exact ⟨by simp, hr⟩
  · rintro ⟨rfl, hr⟩
    exact ⟨a, _, ⟨by simp, hdot _⟩, _, rfl, b, _, ⟨rfl, hdot _⟩, _, rfl, c, _, ⟨rfl, hdot _⟩, _,
      rfl, d, r, ⟨rfl, hr⟩, ⟨rfl, rfl, rfl, rfl⟩, rfl⟩

/-- A text that goes on neither with a group nor, with a dot, with an octet. -/
structure StopsGroup (s : List Char) : Prop where
  noDigit : NoDigitAhead 16 s
  noDot : s.head? ≠ some '.'

lemma stopsGroup_cons (hdigit : isDigit 16 c = false) (hdot : c ≠ '.') : StopsGroup (c :: s) :=
  ⟨noDigitAhead_cons.2 hdigit, by simpa using hdot⟩

lemma StopsGroup.noDecimal (h : StopsGroup s) : NoDigitAhead 10 s := fun c hc =>
  Bool.eq_false_iff.2 fun hdigit =>
    Bool.eq_false_iff.1 (h.noDigit c hc) (isDigit_mono (by decide) hdigit)

/-- No IPv4 address begins with a group, nor where there are no digits at all. -/
lemma takeIpv4?_eq_none (digits : List Char) (hdigits : ∀ c ∈ digits, isDigit 16 c = true)
    (hs : StopsGroup s) : takeIpv4? (digits ++ s) = none := by
  rw [Option.eq_none_iff_forall_ne_some]
  rintro ⟨ip, r⟩ h
  have htext : digits ++ s = decimal ip.a.toNat ++ '.' :: (decimal ip.b.toNat ++
      '.' :: decimal ip.c.toNat ++ '.' :: decimal ip.d.toNat ++ r) := by
    simpa [Ipv4.toChars] using (takeIpv4?_eq_some_iff.1 h).1
  have hoctet : ∀ c ∈ decimal ip.a.toNat, isDigit 16 c = true := fun c hc =>
    isDigit_mono (by decide) (isDigit_of_mem_toDigits (by decide) (by decide) _ c hc)
  have hrest := (append_inj_of_head? htext hdigits hoctet hs.noDigit (noDigitAhead_cons.2 rfl)).2
  exact hs.noDot (by rw [hrest, List.head?_cons])

/-! ## Groups -/

/-- The colon in front of every group but the first. -/
def separator (isFirst : Bool) : List Char := if isFirst then [] else [':']

lemma takeSeparator?_eq_some_iff :
    takeSeparator? isFirst s = some r ↔ s = separator isFirst ++ r := by
  cases isFirst <;> simp [takeSeparator?, separator]

lemma takeSeparator?_append : takeSeparator? isFirst (separator isFirst ++ s) = some s :=
  takeSeparator?_eq_some_iff.2 rfl

lemma isNumeral_hexadecimal (g : UInt16) : IsNumeral 16 (some 4) true (hexadecimal g.toNat) :=
  isNumeral_toDigits (by decide) (by decide) (by simpa using g.toNat_lt)

lemma takeGroup?_append (hs : NoDigitAhead 16 s) :
    takeGroup? isFirst (separator isFirst ++ (hexadecimal g.toNat ++ s)) = some (g, s) := by
  have htake : takeNumber? 16 (some 4) true (hexadecimal g.toNat ++ s) = some (g.toNat, s) :=
    takeNumber?_toDigits (by decide) (by decide) (by simpa using g.toNat_lt) hs
  rw [takeGroup?, takeSeparator?_append]
  simp [htake]

/-- Groups with a colon in front of each. -/
def led (groups : List UInt16) : List Char :=
  groups.flatMap fun g => ':' :: hexadecimal g.toNat

@[simp]
lemma led_nil : led [] = [] := rfl

@[simp]
lemma led_cons (groups : List UInt16) :
    led (g :: groups) = ':' :: (hexadecimal g.toNat ++ led groups) := by
  simp [led]

lemma joinGroups_cons (groups : List UInt16) :
    Ipv6.joinGroups (g :: groups) = hexadecimal g.toNat ++ led groups := by
  induction groups generalizing g with
  | nil => simp [Ipv6.joinGroups]
  | cons h groups ih =>
    have hrest : Ipv6.joinGroups (g :: h :: groups) =
        hexadecimal g.toNat ++ ':' :: Ipv6.joinGroups (h :: groups) := by
      simp [Ipv6.joinGroups]
    rw [hrest, ih, led_cons]

/-- A text that goes on neither with a group nor with a further one. -/
structure StopsRun (s : List Char) : Prop extends StopsGroup s where
  behind : ∀ t, s = ':' :: t → StopsGroup t

lemma stopsRun_cons (hdigit : isDigit 16 c = false) (hdot : c ≠ '.') (hcolon : c ≠ ':') :
    StopsRun (c :: s) where
  toStopsGroup := stopsGroup_cons hdigit hdot
  behind _ h := absurd (List.cons.inj h).1 hcolon

lemma stopsRun_colons : StopsRun (':' :: ':' :: s) where
  toStopsGroup := stopsGroup_cons rfl (by decide)
  behind := by
    rintro t ⟨⟩
    exact stopsGroup_cons rfl (by decide)

/-- A group is taken if another one, or nothing of the kind, follows. -/
lemma takeGroups_succ (limit : Nat) (isFirst : Bool) (g : UInt16) (hs : StopsGroup s) :
    takeGroups (limit + 1) isFirst (separator isFirst ++ (hexadecimal g.toNat ++ s)) =
      (g :: (takeGroups limit false s).1, (takeGroups limit false s).2) := by
  have hembedded :
      takeEmbedded? isFirst (separator isFirst ++ (hexadecimal g.toNat ++ s)) = none := by
    rw [takeEmbedded?, takeSeparator?_append]
    simp [takeIpv4?_eq_none _ (isNumeral_hexadecimal g).isDigit hs]
  rw [takeGroups, hembedded, ite_self, takeGroup?_append hs.noDigit]

lemma takeGroups_of_stopsRun (limit : Nat) (isFirst : Bool) (h : StopsRun s) :
    takeGroups limit isFirst s = ([], false, s) := by
  have hstops : ∀ t, takeSeparator? isFirst s = some t → StopsGroup t := by
    intro t ht
    cases isFirst with
    | true =>
      obtain rfl := Option.some.inj ht
      exact h.toStopsGroup
    | false => exact h.behind t (takeChar?_eq_some_iff.1 ht)
  cases limit with
  | zero => rfl
  | succ limit =>
    have hembedded : takeEmbedded? isFirst s = none := by
      rw [takeEmbedded?, Option.bind_eq_bind, Option.bind_eq_none_iff]
      intro t ht
      have hip : takeIpv4? t = none := takeIpv4?_eq_none [] nofun (hstops t ht)
      rw [hip]
      rfl
    have hgroup : takeGroup? isFirst s = none := by
      rw [takeGroup?, Option.bind_eq_bind, Option.bind_eq_none_iff]
      intro t ht
      rw [takeNumber?_eq_none (hstops t ht).noDigit]
      rfl
    rw [takeGroups, hembedded, ite_self, hgroup]

/-- A group goes on neither in front of further ones nor at their end. -/
lemma stopsGroup_led (groups : List UInt16) (h : StopsRun s) : StopsGroup (led groups ++ s) := by
  cases groups with
  | nil => exact h.toStopsGroup
  | cons g groups =>
    rw [led_cons]
    exact stopsGroup_cons rfl (by decide)

lemma takeGroups_led (groups : List UInt16) (hlimit : groups.length ≤ limit) (h : StopsRun s) :
    takeGroups limit false (led groups ++ s) = (groups, false, s) := by
  induction groups generalizing limit with
  | nil => exact takeGroups_of_stopsRun _ _ h
  | cons g groups ih =>
    rw [List.length_cons] at hlimit
    obtain ⟨limit, rfl⟩ : ∃ n, limit = n + 1 := Nat.exists_eq_add_one.2 (by omega)
    have hstep := takeGroups_succ limit false g (stopsGroup_led groups h)
    rw [ih (by omega)] at hstep
    simpa [separator] using hstep

/-- **Groups are read back where the run of them stops.** -/
lemma takeGroups_join (limit : Nat) (groups : List UInt16) (hlimit : groups.length ≤ limit)
    (h : StopsRun s) :
    takeGroups limit true (Ipv6.joinGroups groups ++ s) = (groups, false, s) := by
  cases groups with
  | nil => exact takeGroups_of_stopsRun _ _ h
  | cons g groups =>
    rw [List.length_cons] at hlimit
    obtain ⟨limit, rfl⟩ : ∃ n, limit = n + 1 := Nat.exists_eq_add_one.2 (by omega)
    have hstep := takeGroups_succ limit true g (stopsGroup_led groups h)
    rw [takeGroups_led groups (by omega) h] at hstep
    simpa [separator, joinGroups_cons] using hstep

/-- An IPv4 address ends the run. -/
lemma takeGroups_embedded (limit : Nat) (isFirst : Bool) (ip : Ipv4)
    (hrest : NoDigitAhead 10 rest) :
    takeGroups (limit + 2) isFirst (separator isFirst ++ (ip.toChars ++ rest)) =
      (groupsOfIpv4 ip, true, rest) := by
  have hip : takeIpv4? (ip.toChars ++ rest) = some (ip, rest) :=
    takeIpv4?_eq_some_iff.2 ⟨rfl, hrest⟩
  simp [takeGroups, takeEmbedded?, takeSeparator?_append, hip]

/-! ## IPv6 -/

lemma ofGroups?_groups (ip : Ipv6) : ofGroups? ip.groups = some ip := dif_pos ip.length_groups

/-- Two colons stand for as many zero groups as are missing. -/
lemma takeIpv6?_of_takeGroups {front back : List UInt16} {embedded : Bool} {t : List Char}
    (hfront : takeGroups 8 true s = (front, false, ':' :: ':' :: t)) (hlength : front.length < 8)
    (hback : takeGroups (7 - front.length) true t = (back, embedded, rest)) :
    takeIpv6? s =
      (ofGroups? (front ++ List.replicate (8 - front.length - back.length) 0 ++ back)).map
        (·, rest) := by
  simp [takeIpv6?, hfront, hlength.ne, takeChar?, hback]

/-- A run of zeros is where it was found. -/
lemma longestZeros_spec (groups : List UInt16) :
    List.replicate (Ipv6.longestZeros groups).2 0 <+: groups.drop (Ipv6.longestZeros groups).1 := by
  rw [Ipv6.longestZeros]
  refine List.foldlRecOn
    (motive := fun best : Nat × Nat => List.replicate best.2 0 <+: groups.drop best.1)
    (List.range groups.length) _ List.nil_prefix fun best hbest i _ => ?_
  dsimp only
  split_ifs
  · have hzeros : (groups.drop i).takeWhile (· = 0) =
        List.replicate ((groups.drop i).takeWhile (· = 0)).length 0 :=
      List.eq_replicate_iff.2 ⟨rfl, fun g hg => by simpa using List.mem_takeWhile_imp hg⟩
    rw [← hzeros]
    exact List.takeWhile_prefix _
  · exact hbest

/-- The groups of an address that embeds another one. -/
lemma groups_of_embedded? {ip : Ipv6} {v4 : Ipv4} (h : ip.embedded? = some v4) :
    ip.groups = [0, 0, 0, 0, 0, 0xffff] ++ groupsOfIpv4 v4 := by
  unfold Ipv6.embedded? at h
  split at h
  case h_1 g h' hgroups =>
    obtain rfl := Option.some.inj h
    rw [hgroups]
    have hg := Octets.toWord_ofWord g
    have hh := Octets.toWord_ofWord h'
    rw [Octets.toWord] at hg hh
    rw [groupsOfIpv4, hg, hh]
    rfl
  case h_2 => cases h

/-- An address with an IPv4 address in it is read back. -/
lemma takeIpv6?_embedded {ip : Ipv6} {v4 : Ipv4} (hip : ip.embedded? = some v4)
    (h : NoDigitAhead 10 rest) :
    takeIpv6? ([':', ':', 'f', 'f', 'f', 'f', ':'] ++ v4.toChars ++ rest) = some (ip, rest) := by
  have hback : takeGroups 7 true ('f' :: 'f' :: 'f' :: 'f' :: ':' :: (v4.toChars ++ rest)) =
      (0xffff :: groupsOfIpv4 v4, true, rest) := by
    have hstep := takeGroups_succ 6 true 0xffff (s := ':' :: (v4.toChars ++ rest))
      (stopsGroup_cons rfl (by decide))
    have hembedded : takeGroups 6 false (':' :: (v4.toChars ++ rest)) =
        (groupsOfIpv4 v4, true, rest) := takeGroups_embedded 4 false v4 h
    rw [hembedded] at hstep
    exact hstep
  have hgroups : [] ++ List.replicate (8 - 0 - (0xffff :: groupsOfIpv4 v4).length) 0 ++
      (0xffff :: groupsOfIpv4 v4) = ip.groups := by
    rw [groups_of_embedded? hip]
    rfl
  have htake :=
    takeIpv6?_of_takeGroups (takeGroups_of_stopsRun 8 true stopsRun_colons) (by simp) hback
  rw [List.length_nil, hgroups, ofGroups?_groups] at htake
  exact htake

/-- An address with a run of zeros left out is read back. -/
lemma takeIpv6?_shortened {ip : Ipv6} {start length : Nat}
    (hzeros : List.replicate length 0 <+: ip.groups.drop start) (hlength : 0 < length)
    (h : StopsRun rest) :
    takeIpv6? (Ipv6.joinGroups (ip.groups.take start) ++ [':', ':'] ++
      Ipv6.joinGroups (ip.groups.drop (start + length)) ++ rest) = some (ip, rest) := by
  have hle : length ≤ 8 - start := by
    simpa [ip.length_groups] using hzeros.length_le
  have hfront : (ip.groups.take start).length = start := by
    rw [List.length_take, ip.length_groups]
    omega
  have hback : (ip.groups.drop (start + length)).length = 8 - (start + length) := by
    rw [List.length_drop, ip.length_groups]
  have hgroups : ip.groups.take start ++ List.replicate length 0 ++
      ip.groups.drop (start + length) = ip.groups := by
    obtain ⟨t, ht⟩ := hzeros
    rw [← List.drop_drop, ← ht, List.drop_left' (by simp), List.append_assoc, ht,
      List.take_append_drop]
  have htake := takeIpv6?_of_takeGroups
    (takeGroups_join 8 (ip.groups.take start) (by omega) stopsRun_colons) (by omega)
    (takeGroups_join _ (ip.groups.drop (start + length)) (by omega) h)
  rw [hfront, hback, show 8 - start - (8 - (start + length)) = length by omega, hgroups,
    ofGroups?_groups] at htake
  simpa using htake

/-- **An IPv6 address is read back where no group follows.** -/
theorem takeIpv6?_toChars (ip : Ipv6) (h : StopsRun rest) :
    takeIpv6? (ip.toChars ++ rest) = some (ip, rest) := by
  rw [Ipv6.toChars]
  split
  case h_1 v4 hembedded => exact takeIpv6?_embedded hembedded h.noDecimal
  case h_2 hembedded =>
    dsimp only
    split_ifs with hzeros
    · exact takeIpv6?_shortened (longestZeros_spec ip.groups) (by omega) h
    · have htake := takeGroups_join 8 ip.groups ip.length_groups.le h
      simp [takeIpv6?, htake, ip.length_groups, ofGroups?_groups]

/-! ## Sockets -/

lemma takePort?_decimal (port : UInt16) :
    takePort? (':' :: decimal port.toNat) = some (port, []) := by
  have htake := takeNumber?_decimal port.toNat noDigitAhead_nil
  rw [List.append_nil] at htake
  simp [takePort?, takeChar?, htake, port.toNat_lt]

/-- The scope of an address as it is written; there is nothing to be written for none. -/
def scopeChars (scope : UInt32) : List Char :=
  if scope = 0 then [] else '%' :: decimal scope.toNat

lemma takeScope_scopeChars (scope : UInt32) :
    takeScope (scopeChars scope ++ ']' :: s) = (scope, ']' :: s) := by
  by_cases hzero : scope = 0
  · simp [hzero, scopeChars, takeScope, takeChar?]
  · have htake := takeNumber?_decimal scope.toNat (noDigitAhead_cons (s := s) (c := ']').2 rfl)
    simp [hzero, scopeChars, takeScope, takeChar?, htake, scope.toNat_lt]

lemma stopsRun_scopeChars (scope : UInt32) : StopsRun (scopeChars scope ++ ']' :: s) := by
  unfold scopeChars
  split_ifs
  · exact stopsRun_cons rfl (by decide) (by decide)
  · exact stopsRun_cons rfl (by decide) (by decide)

end Address

open Address Numeral

/-- **A socket address is read back from what is written for it.** -/
theorem SocketAddress.ofChars?_toChars (address : SocketAddress) :
    ofChars? address.toChars = some address := by
  cases address with
  | v4 ip port =>
    have hip : takeIpv4? (ip.toChars ++ ':' :: decimal port.toNat) =
        some (ip, ':' :: decimal port.toNat) :=
      takeIpv4?_eq_some_iff.2 ⟨rfl, noDigitAhead_cons.2 rfl⟩
    simp [ofChars?, toChars, takeSocketV4?, hip, takePort?_decimal, whole?]
  | v6 ip scope port =>
    let back := scopeChars scope ++ ']' :: ':' :: decimal port.toNat
    have htext : (v6 ip scope port).toChars = '[' :: (ip.toChars ++ back) := by
      simp [toChars, back, scopeChars]
    have hv4 : takeSocketV4? ('[' :: (ip.toChars ++ back)) = none := by
      have hip : takeIpv4? ('[' :: (ip.toChars ++ back)) = none :=
        takeIpv4?_eq_none [] nofun (stopsGroup_cons rfl (by decide))
      rw [takeSocketV4?, hip]
      rfl
    have hip : takeIpv6? (ip.toChars ++ back) = some (ip, back) :=
      takeIpv6?_toChars ip (stopsRun_scopeChars scope)
    have hscope : takeScope back = (scope, ']' :: ':' :: decimal port.toNat) :=
      takeScope_scopeChars scope
    rw [htext, ofChars?, hv4]
    simp [takeSocketV6?, takeChar?, hip, hscope, takePort?_decimal, whole?]

end SpaGateway
