import TrafficCone.KernelAddresses
import TrafficCone.RouteResolution
import TrafficCone.StoreCommands

namespace TrafficCone.AddressSpellings

open TrafficCone.StoreModels
open TrafficCone.StoreListing
open TrafficCone.HexadecimalText
open TrafficCone.TextScanning
open TrafficCone.BackupArchives
open TrafficCone.RouteResolution
open TrafficCone.StoreCommands
open TrafficCone.KernelAddresses

section Spellings

/-- One group of an IPv6 address: up to four digits, in either case, leading zeros or not. -/
def groupOf (letters : List Char) : Option Nat :=
  if letters = [] ∨ 4 < letters.length then none else digitsValue 16 0 letters

def groupsOf (letters : List Char) : Option (List Nat) :=
  if letters = [] then some [] else (letters.splitOn ':').mapM groupOf

/-- What stands before and behind the first `::` of a text. -/
def splitDouble : List Char → Option (List Char × List Char)
  | [] => none
  | letter :: rest =>
      if letter = ':' ∧ rest.head? = some ':' then some ([], rest.tail)
      else (splitDouble rest).map fun parts => (letter :: parts.1, parts.2)

/-- The eight groups that a text spells. One run of zero groups may be left out. -/
def readGroups (letters : List Char) : Option (List Nat) :=
  match splitDouble letters with
  | none => (groupsOf letters).filter fun groups => groups.length = 8
  | some (before, behind) => do
      let left ← groupsOf before
      let right ← groupsOf behind
      if left.length + right.length < 8 then
        some (left ++ List.replicate (8 - (left.length + right.length)) 0 ++ right)
      else none

def groupValues : List UInt8 → List Nat
  | high :: low :: rest => (2 ^ 8 * high.toNat + low.toNat) :: groupValues rest
  | _ => []

/-- The text is a spelling of the address. -/
def Denotes (text : String) (address : Ipv6Address) : Prop :=
  readGroups text.toList = some (groupValues address.bytes)

instance (text : String) (address : Ipv6Address) : Decidable (Denotes text address) :=
  inferInstanceAs (Decidable (_ = _))

example : readGroups "2001:DB8::a:0".toList = some [0x2001, 0xdb8, 0, 0, 0, 0, 10, 0] := by
  decide

theorem groupValues_injective {first second : List UInt8} (hlength : first.length = second.length)
    (heven : first.length % 2 = 0) (h : groupValues first = groupValues second) :
    first = second := by
  induction first using groupValues.induct generalizing second with
  | case1 high low rest ih =>
      rcases second with _ | ⟨otherHigh, _ | ⟨otherLow, others⟩⟩
      · cases hlength
      · simp at hlength
      · simp only [List.length_cons] at hlength heven
        rw [groupValues, groupValues, List.cons.injEq] at h
        obtain ⟨hhead, htail⟩ := h
        have hlow := low.toNat_lt
        have hotherLow := otherLow.toNat_lt
        have hhighs : high.toNat = otherHigh.toNat := by omega
        have hlows : low.toNat = otherLow.toNat := by omega
        rw [UInt8.toNat_inj.mp hhighs, UInt8.toNat_inj.mp hlows,
          ih (by omega) (by omega) htail]
  | case2 bytes hshort =>
      rcases bytes with _ | ⟨high, _ | ⟨low, rest⟩⟩
      · exact (List.length_eq_zero_iff.mp hlength.symm).symm
      · simp at heven
      · exact absurd rfl (hshort high low rest)

theorem denotes_unique {text : String} {first second : Ipv6Address} (hfirst : Denotes text first)
    (hsecond : Denotes text second) : first = second := by
  have hvalues := Option.some.inj (hfirst.symm.trans hsecond)
  have hbytes := groupValues_injective (first.length_bytes.trans second.length_bytes.symm)
    (by rw [first.length_bytes]) hvalues
  cases first
  cases second
  cases hbytes
  rfl

theorem length_groupValues (bytes : List UInt8) :
    (groupValues bytes).length = bytes.length / 2 := by
  induction bytes using groupValues.induct with
  | case1 high low rest ih =>
      rw [groupValues, List.length_cons, ih]
      simp only [List.length_cons]
      omega
  | case2 bytes hshort =>
      rcases bytes with _ | ⟨high, _ | ⟨low, rest⟩⟩
      · rfl
      · simp [groupValues]
      · exact absurd rfl (hshort high low rest)

theorem groupValues_lt {bytes : List UInt8} {value : Nat} (h : value ∈ groupValues bytes) :
    value < 16 ^ 4 := by
  induction bytes using groupValues.induct with
  | case1 high low rest ih =>
      rw [groupValues, List.mem_cons] at h
      rcases h with rfl | h
      · have hhigh := high.toNat_lt
        have hlow := low.toNat_lt
        omega
      · exact ih h
  | case2 bytes hshort =>
      rcases bytes with _ | ⟨high, _ | ⟨low, rest⟩⟩
      · cases h
      · cases h
      · exact absurd rfl (hshort high low rest)

theorem networkGroups_eq (bytes : List UInt8) :
    networkGroups bytes =
      (groupValues bytes).map fun value => String.ofList (hexPadded 4 value) := by
  induction bytes using groupValues.induct with
  | case1 high low rest ih => rw [networkGroups, groupValues, List.map_cons, ih]
  | case2 bytes hshort =>
      rcases bytes with _ | ⟨high, _ | ⟨low, rest⟩⟩
      · rfl
      · rfl
      · exact absurd rfl (hshort high low rest)

theorem groupOf_hexPadded {value : Nat} (h : value < 16 ^ 4) :
    groupOf (hexPadded 4 value) = some value := by
  have hlength := length_hexPadded 4 value
  rw [groupOf, if_neg, digitsValue_hexPadded h]
  rintro (hnone | hlong)
  · rw [hnone] at hlength
    cases hlength
  · omega

theorem splitDouble_group {group : List Char} (h : ':' ∉ group) (rest : List Char) :
    splitDouble (group ++ rest) =
      (splitDouble rest).map fun parts => (group ++ parts.1, parts.2) := by
  induction group with
  | nil => simp
  | cons letter group ih =>
      rw [List.mem_cons, not_or] at h
      rw [List.cons_append, splitDouble, if_neg (fun hcolon => h.1 hcolon.1.symm), ih h.2,
        Option.map_map]
      rfl

/-- Between groups that are not empty no two colons meet. -/
theorem splitDouble_intercalate {groups : List (List Char)} (hcolon : ∀ group ∈ groups, ':' ∉ group)
    (hnonempty : ∀ group ∈ groups, group ≠ []) :
    splitDouble ([':'].intercalate groups) = none := by
  induction groups with
  | nil => rfl
  | cons group groups ih =>
      rw [List.forall_mem_cons] at hcolon hnonempty
      have hrest := ih hcolon.2 hnonempty.2
      cases groups with
      | nil =>
          have hgroup := splitDouble_group hcolon.1 []
          rw [List.append_nil] at hgroup
          simpa [splitDouble] using hgroup
      | cons other groups =>
          have hhead : (([':'].intercalate (other :: groups)).head? = some ':') → False := by
            intro hhead
            obtain ⟨letter, letters, hletters⟩ :=
              List.exists_cons_of_ne_nil (hnonempty.2 other List.mem_cons_self)
            have hletter : letter = ':' := by
              cases groups <;> simpa [hletters] using hhead
            exact hcolon.2 other List.mem_cons_self (by rw [hletters, hletter]; simp)
          rw [List.intercalate_cons_cons, List.append_assoc, splitDouble_group hcolon.1,
            List.singleton_append, splitDouble, if_neg (fun h => hhead h.2), hrest]
          rfl

theorem mapM_groupOf {values : List Nat} (h : ∀ value ∈ values, value < 16 ^ 4) :
    (values.map (hexPadded 4)).mapM groupOf = some values := by
  induction values with
  | nil => rfl
  | cons value values ih =>
      rw [List.forall_mem_cons] at h
      rw [List.map_cons, List.mapM_cons, groupOf_hexPadded h.1, ih h.2]
      rfl

/-- The monitor's text of an address is one of its spellings. -/
theorem denotes_networkText (address : Ipv6Address) : Denotes (networkText address) address := by
  have hlength : ((groupValues address.bytes).map (hexPadded 4)).length = 8 := by
    rw [List.length_map, length_groupValues, address.length_bytes]
  have hletters : (networkText address).toList =
      [':'].intercalate ((groupValues address.bytes).map (hexPadded 4)) := by
    have htexts : ∀ value ∈ groupValues address.bytes,
        (String.ofList (hexPadded 4 value)).toList = hexPadded 4 value :=
      fun _ _ => String.toList_ofList
    rw [networkText, String.toList_intercalate, networkGroups_eq, List.map_map]
    exact congrArg [':'].intercalate (List.map_congr_left htexts)
  have hcolon : ∀ group ∈ (groupValues address.bytes).map (hexPadded 4), ':' ∉ group := by
    rw [List.forall_mem_map]
    exact fun value _ => colon_not_mem_hexPadded 4 value
  have hnonempty : ∀ group ∈ (groupValues address.bytes).map (hexPadded 4), group ≠ [] := by
    rw [List.forall_mem_map]
    intro value _ hnone
    have hfour := length_hexPadded 4 value
    rw [hnone] at hfour
    cases hfour
  have hgroups : (groupValues address.bytes).map (hexPadded 4) ≠ [] := by
    intro hnone
    rw [hnone] at hlength
    cases hlength
  have hsplit := List.splitOn_intercalate ':' hcolon hgroups
  have hsome : [':'].intercalate ((groupValues address.bytes).map (hexPadded 4)) ≠ [] := by
    intro hnone
    rw [hnone] at hsplit
    rw [← hsplit] at hlength
    cases hlength
  rw [Denotes, hletters, readGroups, splitDouble_intercalate hcolon hnonempty]
  dsimp only
  rw [groupsOf, if_neg hsome, hsplit, mapM_groupOf fun _ => groupValues_lt, Option.filter_some,
    if_pos]
  rw [List.length_map] at hlength
  rw [hlength]
  rfl

end Spellings

section Matching

/-- The route that `cone route add` stores, as the router reads it. -/
def addedRoute (host : Host) (id certId : String) (appId : Option String)
    (request : RouteRequest) : Route :=
  readRoute (requestedRoute host id certId appId request)

/-- A route that was added for this text as its address is for the connections to the address
exactly if the text is a spelling of it. -/
def MatchesByAddress (text : String) (address : Ipv6Address) : Prop :=
  ∀ host id certId appId request query, request.host = none → request.ip = some text →
    query.remoteIp = some (networkText address) →
      (hostMatches (addedRoute host id certId appId request) query = true ↔ Denotes text address)

theorem hostMatches_addedRoute {host : Host} {id certId : String} {appId : Option String}
    {request : RouteRequest} {query : Query} {text ip : String} (hhost : request.host = none)
    (hip : request.ip = some text) (hremote : query.remoteIp = some ip) :
    hostMatches (addedRoute host id certId appId request) query = true ↔ ip = text := by
  have hmatch : matchOf request.host request.ip = ("ip", some text) := by
    rw [hhost, hip]
    rfl
  have htype : readMatchType "ip" = .ip := by decide
  simp only [hostMatches, addedRoute, readRoute, requestedRoute, hmatch, htype, patternMatches,
    hremote, Option.any_some, decide_eq_true_eq]

/-- Of all spellings of an address only the one that the monitor writes matches it. -/
theorem matchesByAddress_iff (text : String) (address : Ipv6Address) :
    MatchesByAddress text address ↔ (Denotes text address → text = networkText address) := by
  constructor
  · intro hmatches hdenotes
    have hroute := hmatches { unixNow := 0, newId := fun _ => "" } "" "" none
      { cert := "", app := none, host := none, ip := some text, requireBoth := false
        priority := 0 }
      { appId := none, remoteHost := none, remoteIp := some (networkText address) } rfl rfl rfl
    exact ((hostMatches_addedRoute rfl rfl rfl).mp (hroute.mpr hdenotes)).symm
  · intro hspelling host id certId appId request query hhost hip hremote
    rw [hostMatches_addedRoute hhost hip hremote]
    constructor
    · rintro rfl
      exact denotes_networkText address
    · exact fun hdenotes => (hspelling hdenotes).symm

/-- The loopback address is not matched by its usual spelling. -/
theorem short_spelling_does_not_match :
    Denotes "::1" loopback ∧ ¬ MatchesByAddress "::1" loopback := by
  have hdenotes : Denotes "::1" loopback := by decide
  refine ⟨hdenotes, ?_⟩
  intro hmatches
  have hroute := hmatches { unixNow := 0, newId := fun _ => "" } "" "" none
    { cert := "", app := none, host := none, ip := some "::1", requireBoth := false
      priority := 0 }
    { appId := none, remoteHost := none, remoteIp := some (networkText loopback) } rfl rfl rfl
  have hequal := (hostMatches_addedRoute rfl rfl rfl).mp (hroute.mpr hdenotes)
  revert hequal
  decide +kernel

end Matching

end TrafficCone.AddressSpellings
