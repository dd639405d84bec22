import TrafficCone.KernelAddresses
import TrafficCone.RouteResolution
import TrafficCone.TextLeads

namespace TrafficCone.NetworkPatterns

open TrafficCone.StoreModels
open TrafficCone.TextLeads
open TrafficCone.RouteResolution
open TrafficCone.KernelAddresses

/-- An IPv4 network in canonical form: behind the prefix all bits are zero. -/
structure Network where
  address : Word
  prefixLength : Nat
  prefixLength_le : prefixLength ≤ 32
  hostBits : networkValue address % 2 ^ (32 - prefixLength) = 0

def Network.text (network : Network) : String :=
  dottedDecimal network.address ++ "/" ++ toString network.prefixLength

/-- The address begins with the bits of the network. -/
def Network.Contains (network : Network) (ip : Word) : Prop :=
  networkValue ip / 2 ^ (32 - network.prefixLength) =
    networkValue network.address / 2 ^ (32 - network.prefixLength)

/-- The routes with the pattern of a network are for a connection to the address exactly if it
is in the network. -/
def MatchesNetwork (network : Network) (ip : Word) : Prop :=
  ∀ route query, route.matchType = .ipCidr → route.pattern = some network.text →
    query.remoteIp = some (dottedDecimal ip) →
      (hostMatches route query = true ↔ network.Contains ip)

/-- The third octets differ, but the digits of the one begin with those of the other. -/
def LooksInside (network : Network) (ip : Word) : Prop :=
  ip.first = network.address.first ∧ ip.second = network.address.second ∧
    ip.third ≠ network.address.third ∧
      (toString network.address.third.toNat).toList <+: (toString ip.third.toNat).toList

theorem contains_iff_of_24 {network : Network} (h : network.prefixLength = 24) (ip : Word) :
    network.Contains ip ↔
      ip.first = network.address.first ∧ ip.second = network.address.second ∧
        ip.third = network.address.third := by
  have hsecond := ip.second.toNat_lt
  have hthird := ip.third.toNat_lt
  have hfourth := ip.fourth.toNat_lt
  have hnetworkSecond := network.address.second.toNat_lt
  have hnetworkThird := network.address.third.toNat_lt
  have hnetworkFourth := network.address.fourth.toNat_lt
  rw [Network.Contains, h, networkValue, networkValue, ← UInt8.toNat_inj, ← UInt8.toNat_inj,
    ← UInt8.toNat_inj]
  omega

theorem fourth_eq_zero {network : Network} (h : network.prefixLength = 24) :
    network.address.fourth = 0 := by
  have hfourth := network.address.fourth.toNat_lt
  have hbits := network.hostBits
  rw [h, networkValue] at hbits
  rw [← UInt8.toNat_inj]
  change network.address.fourth.toNat = 0
  omega

section Texts

theorem mark_not_mem_toString {mark : Char} (h : mark.isDigit = false) (number : Nat) :
    mark ∉ (toString number).toList := by
  intro hmem
  rw [isDigit_of_mem_toString hmem] at h
  cases h

theorem toList_dottedDecimal (address : Word) :
    (dottedDecimal address).toList =
      (toString address.first.toNat).toList ++ '.' :: ((toString address.second.toNat).toList ++
        '.' :: ((toString address.third.toNat).toList ++
          '.' :: (toString address.fourth.toNat).toList)) := by
  simp [dottedDecimal]

theorem slash_not_mem_dottedDecimal (address : Word) : '/' ∉ (dottedDecimal address).toList := by
  have hnumber := mark_not_mem_toString (show '/'.isDigit = false by decide)
  rw [toList_dottedDecimal]
  simp only [List.mem_append, List.mem_cons, not_or]
  exact ⟨hnumber _, by decide, hnumber _, by decide, hnumber _, by decide, hnumber _⟩

/-- The octets of a network of 24 bits that its pattern is cut down to. -/
def leadingOctets (address : Word) : String :=
  toString address.first.toNat ++ "." ++ toString address.second.toNat ++ "." ++
    toString address.third.toNat

theorem toList_leadingOctets (address : Word) :
    (leadingOctets address).toList =
      (toString address.first.toNat).toList ++ '.' :: ((toString address.second.toNat).toList ++
        '.' :: (toString address.third.toNat).toList) := by
  simp [leadingOctets]

theorem text_of_24 {network : Network} (h : network.prefixLength = 24) :
    network.text = leadingOctets network.address ++ ".0/24" := by
  rw [Network.text, dottedDecimal, fourth_eq_zero h, h, leadingOctets]
  simp only [String.append_assoc]
  rfl

theorem slash_not_mem_leadingOctets (address : Word) :
    '/' ∉ (leadingOctets address).toList := by
  have hnumber := mark_not_mem_toString (show '/'.isDigit = false by decide)
  rw [toList_leadingOctets]
  simp only [List.mem_append, List.mem_cons, not_or]
  exact ⟨hnumber _, by decide, hnumber _, by decide, hnumber _⟩

theorem trimEndMatches_of_24 {network : Network} (h : network.prefixLength = 24) :
    trimEndMatches network.text ".0/24" = leadingOctets network.address := by
  rw [text_of_24 h]
  apply trimEndMatches_append (by decide)
  intro hsuffix
  exact slash_not_mem_leadingOctets network.address (hsuffix.subset (by decide))

/-- Of the other networks nothing is cut off. -/
theorem trimEndMatches_of_not_24 {network : Network} (h : network.prefixLength ≠ 24) :
    trimEndMatches network.text ".0/24" = network.text := by
  apply trimEndMatches_of_not_suffix
  rintro ⟨lead, hlead⟩
  have hlength : (toString 24).toList = ['2', '4'] := by decide
  rw [Network.text, String.toList_append, String.toList_append, List.append_assoc] at hlead
  have hequal : (lead ++ ['.', '0']) ++ '/' :: (toString 24).toList =
      (dottedDecimal network.address).toList ++
        '/' :: (toString network.prefixLength).toList := by
    rw [hlength, List.append_assoc]
    exact hlead
  exact h (number_eq_of_trailing (by decide) hequal).symm

theorem startsWith_leadingOctets_iff (address ip : Word) :
    startsWith (dottedDecimal ip) (leadingOctets address) = true ↔
      ip.first = address.first ∧ ip.second = address.second ∧
        (toString address.third.toNat).toList <+: (toString ip.third.toNat).toList := by
  have hdot := mark_not_mem_toString (show '.'.isDigit = false by decide)
  have hinjective : ∀ first second : UInt8,
      (toString first.toNat).toList = (toString second.toNat).toList ↔ second = first := by
    intro first second
    constructor
    · exact fun h => UInt8.toNat_inj.mp (toString_toList_injective h).symm
    · rintro rfl
      rfl
  rw [startsWith, List.isPrefixOf_iff_prefix, toList_leadingOctets, toList_dottedDecimal,
    marked_prefix_iff (hdot _) (hdot _), marked_prefix_iff (hdot _) (hdot _),
    prefix_append_mark_iff (hdot _), hinjective, hinjective]

end Texts

theorem hostMatches_network {route : Route} {query : Query} {network : Network} {ip : Word}
    (htype : route.matchType = .ipCidr) (hpattern : route.pattern = some network.text)
    (hremote : query.remoteIp = some (dottedDecimal ip)) :
    hostMatches route query =
      startsWith (dottedDecimal ip) (trimEndMatches network.text ".0/24") := by
  rw [hostMatches, hpattern]
  dsimp only
  rw [htype, patternMatches, hremote, Option.any_some]

/-- Only networks of 24 bits match anything, and then also addresses that look as if they were
in the network. -/
theorem hostMatches_network_iff {route : Route} {query : Query} {network : Network} {ip : Word}
    (htype : route.matchType = .ipCidr) (hpattern : route.pattern = some network.text)
    (hremote : query.remoteIp = some (dottedDecimal ip)) :
    hostMatches route query = true ↔
      network.prefixLength = 24 ∧ (network.Contains ip ∨ LooksInside network ip) := by
  rw [hostMatches_network htype hpattern hremote]
  by_cases hlength : network.prefixLength = 24
  · rw [trimEndMatches_of_24 hlength, startsWith_leadingOctets_iff, contains_iff_of_24 hlength,
      LooksInside]
    by_cases hthird : ip.third = network.address.third
    · simp [hlength, hthird]
    · simp [hlength, hthird]
  · rw [trimEndMatches_of_not_24 hlength, startsWith, List.isPrefixOf_iff_prefix]
    refine iff_of_false ?_ fun h => hlength h.1
    intro hlead
    apply slash_not_mem_dottedDecimal ip
    apply hlead.subset
    simp [Network.text]

def cidrRoute (network : Network) : Route where
  id := "r1"
  certId := "c1"
  appId := none
  matchType := .ipCidr
  pattern := some network.text
  requireBoth := false
  priority := 0
  createdAt := 0

def queryFrom (ip : Word) : Query where
  appId := none
  remoteHost := none
  remoteIp := some (dottedDecimal ip)

theorem hostMatches_cidrRoute_iff (network : Network) (ip : Word) :
    hostMatches (cidrRoute network) (queryFrom ip) = true ↔
      network.prefixLength = 24 ∧ (network.Contains ip ∨ LooksInside network ip) :=
  hostMatches_network_iff rfl rfl rfl

/-- A network of 24 bits matches rightly except for addresses that look as if they were inside;
any other network only where it does not contain the address. -/
theorem matchesNetwork_iff (network : Network) (ip : Word) :
    MatchesNetwork network ip ↔
      if network.prefixLength = 24 then ¬ LooksInside network ip else ¬ network.Contains ip := by
  have hmatches : MatchesNetwork network ip ↔
      (network.prefixLength = 24 ∧ (network.Contains ip ∨ LooksInside network ip) ↔
        network.Contains ip) := by
    constructor
    · intro h
      rw [← hostMatches_cidrRoute_iff]
      exact h (cidrRoute network) (queryFrom ip) rfl rfl rfl
    · intro h route query htype hpattern hremote
      rw [hostMatches_network_iff htype hpattern hremote, h]
  rw [hmatches]
  by_cases hlength : network.prefixLength = 24
  · rw [if_pos hlength]
    have hapart : LooksInside network ip → ¬ network.Contains ip := by
      rintro ⟨-, -, hthird, -⟩ hcontains
      exact hthird ((contains_iff_of_24 hlength ip).mp hcontains).2.2
    tauto
  · rw [if_neg hlength]
    tauto

def networkOf10 : Network where
  address := { first := 10, second := 0, third := 0, fourth := 0 }
  prefixLength := 8
  prefixLength_le := by decide
  hostBits := by decide

def networkOf10Dot0Dot1 : Network where
  address := { first := 10, second := 0, third := 1, fourth := 0 }
  prefixLength := 24
  prefixLength_le := by decide
  hostBits := by decide

/-- The network 10.0.0.0/8 does not match one of its addresses, and 10.0.1.0/24 matches an
address of another network. -/
theorem networks_misjudged :
    (networkOf10.Contains { first := 10, second := 1, third := 2, fourth := 3 } ∧
      ¬ MatchesNetwork networkOf10 { first := 10, second := 1, third := 2, fourth := 3 }) ∧
    hostMatches (cidrRoute networkOf10Dot0Dot1)
        (queryFrom { first := 10, second := 0, third := 17, fourth := 5 }) = true ∧
      ¬ networkOf10Dot0Dot1.Contains { first := 10, second := 0, third := 17, fourth := 5 } := by
  have hcontains : networkOf10.Contains { first := 10, second := 1, third := 2, fourth := 3 } := by
    rw [Network.Contains]
    decide
  refine ⟨⟨hcontains, ?_⟩, by decide, ?_⟩
  · intro hmatches
    have hroute := hmatches (cidrRoute networkOf10)
      (queryFrom { first := 10, second := 1, third := 2, fourth := 3 }) rfl rfl rfl
    exact absurd (hroute.mpr hcontains) (by decide)
  · rw [Network.Contains]
    decide

end TrafficCone.NetworkPatterns
