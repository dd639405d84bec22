import TrafficCone.ProcReaders

namespace TrafficCone.KernelAddresses

open TrafficCone.Outcomes
open TrafficCone.HexadecimalText
open TrafficCone.TextScanning
open TrafficCone.ProcReaders

/-- The sixteen bytes of an IPv6 address, in network order. -/
structure Ipv6Address where
  bytes : List UInt8
  length_bytes : bytes.length = 16
  deriving DecidableEq, Repr

/-- Four bytes of an address, as they stand in memory. -/
structure Word where
  first : UInt8
  second : UInt8
  third : UInt8
  fourth : UInt8
  deriving DecidableEq, Repr

def wordsOf : List UInt8 → List Word
  | first :: second :: third :: fourth :: rest =>
      { first := first, second := second, third := third, fourth := fourth } :: wordsOf rest
  | _ => []

/-- What a little-endian machine loads. -/
def hostValue (word : Word) : Nat :=
  word.first.toNat + 2 ^ 8 * word.second.toNat + 2 ^ 16 * word.third.toNat +
    2 ^ 24 * word.fourth.toNat

def networkValue (word : Word) : Nat :=
  2 ^ 24 * word.first.toNat + 2 ^ 16 * word.second.toNat + 2 ^ 8 * word.third.toNat +
    word.fourth.toNat

/-- The entry of `/proc/net/tcp6`: each word is printed as the machine loads it. -/
def kernelText (address : Ipv6Address) (port : UInt16) : List Char :=
  (wordsOf address.bytes).flatMap (fun word => upperHexPadded 8 (hostValue word)) ++
    ':' :: upperHexPadded 4 port.toNat

/-- Four octets in network order. -/
def dottedDecimal (address : Word) : String :=
  toString address.first.toNat ++ "." ++ toString address.second.toNat ++ "." ++
    toString address.third.toNat ++ "." ++ toString address.fourth.toNat

def networkGroups : List UInt8 → List String
  | high :: low :: rest =>
      String.ofList (hexPadded 4 (2 ^ 8 * high.toNat + low.toNat)) :: networkGroups rest
  | _ => []

/-- The eight groups of the address in network order, without omissions. -/
def networkText (address : Ipv6Address) : String :=
  ":".intercalate (networkGroups address.bytes)

/-- The entry of the kernel is read as the address that it stands for. -/
def ReadsAddress (address : Ipv6Address) (port : UInt16) : Prop :=
  parseHexAddr (kernelText address port) true = .ok (some (networkText address, port.toNat))

instance (address : Ipv6Address) (port : UInt16) : Decidable (ReadsAddress address port) :=
  inferInstanceAs (Decidable (_ = _))

def Palindromic (word : Word) : Prop := word.first = word.fourth ∧ word.second = word.third

theorem hostValue_lt (word : Word) : hostValue word < 2 ^ 32 := by
  have hfirst := word.first.toNat_lt
  have hsecond := word.second.toNat_lt
  have hthird := word.third.toNat_lt
  have hfourth := word.fourth.toNat_lt
  rw [hostValue]
  omega

def Word.reversed (word : Word) : Word where
  first := word.fourth
  second := word.third
  third := word.second
  fourth := word.first

theorem networkValue_eq (word : Word) : networkValue word = hostValue word.reversed := by
  simp only [networkValue, hostValue, Word.reversed]
  omega

theorem networkValue_lt (word : Word) : networkValue word < 2 ^ 32 := by
  rw [networkValue_eq]
  exact hostValue_lt word.reversed

theorem hostValue_eq_networkValue_iff (word : Word) :
    hostValue word = networkValue word ↔ Palindromic word := by
  have hfirst := word.first.toNat_lt
  have hsecond := word.second.toNat_lt
  have hthird := word.third.toNat_lt
  have hfourth := word.fourth.toNat_lt
  rw [hostValue, networkValue, Palindromic, ← UInt8.toNat_inj, ← UInt8.toNat_inj]
  omega

section Reading

theorem swapBytes_hostValue (word : Word) : swapBytes (hostValue word) = networkValue word := by
  have hfirst := word.first.toNat_lt
  have hsecond := word.second.toNat_lt
  have hthird := word.third.toNat_lt
  have hfourth := word.fourth.toNat_lt
  rw [swapBytes, hostValue, networkValue]
  omega

theorem swapBytes_networkValue (word : Word) : swapBytes (networkValue word) = hostValue word := by
  rw [networkValue_eq, swapBytes_hostValue, networkValue_eq]
  rfl

theorem utf8Size_of_mem_upperHexPadded {width value : Nat} {letter : Char}
    (h : letter ∈ upperHexPadded width value) : letter.utf8Size = 1 := by
  obtain ⟨digit, hdigit, rfl⟩ := exists_of_mem_upperHexPadded h
  exact utf8Size_upperHexDigit hdigit

theorem colon_not_mem_upperHexPadded (width value : Nat) :
    ':' ∉ upperHexPadded width value := by
  intro hcolon
  obtain ⟨digit, hdigit, h⟩ := exists_of_mem_upperHexPadded hcolon
  have hvalue := digitValue_upperHexDigit hdigit
  rw [← h, show digitValue ':' = none by decide] at hvalue
  cases hvalue

theorem takeBytes_upperHexPadded (width value : Nat) (rest : List Char) :
    takeBytes (upperHexPadded width value ++ rest) width =
      some (upperHexPadded width value, rest) := by
  have htaken := @takeBytes_append (upperHexPadded width value)
    (fun _ => utf8Size_of_mem_upperHexPadded) rest
  rwa [length_upperHexPadded] at htaken

/-- The bytes of a word are swapped twice, so it is read as the machine loads it. -/
theorem readAddressWords_hostValue (words : List Word) :
    readAddressWords words.length
        (words.flatMap fun word => upperHexPadded 8 (hostValue word)) =
      .ok (some (words.map hostValue)) := by
  induction words with
  | nil => rfl
  | cons word words ih =>
      have hvalue : parseUnsigned 16 (2 ^ 32) (upperHexPadded 8 (hostValue word)) =
          some (hostValue word) :=
        parseUnsigned_upperHexPadded (hostValue_lt word) (hostValue_lt word)
      rw [List.length_cons, List.flatMap_cons, readAddressWords, takeBytes_upperHexPadded]
      dsimp only
      rw [hvalue, ih]
      dsimp only
      rw [fromBigEndian, swapBytes_hostValue, swapBytes_networkValue]
      rfl

theorem length_wordsOf (bytes : List UInt8) : (wordsOf bytes).length = bytes.length / 4 := by
  induction bytes using wordsOf.induct with
  | case1 first second third fourth rest ih =>
      rw [wordsOf, List.length_cons, ih]
      simp only [List.length_cons]
      omega
  | case2 bytes hshort =>
      rcases bytes with _ | ⟨first, _ | ⟨second, _ | ⟨third, _ | ⟨fourth, rest⟩⟩⟩⟩
      · rfl
      · simp [wordsOf]
      · simp [wordsOf]
      · simp [wordsOf]
      · exact absurd rfl (hshort first second third fourth rest)

theorem byteLength_words (words : List Word) :
    byteLength (words.flatMap fun word => upperHexPadded 8 (hostValue word)) =
      8 * words.length := by
  induction words with
  | nil => rfl
  | cons word words ih =>
      have hsizes : (upperHexPadded 8 (hostValue word)).map Char.utf8Size =
          List.replicate 8 1 := by
        rw [← length_upperHexPadded 8 (hostValue word), ← List.map_const']
        exact List.map_congr_left fun _ => utf8Size_of_mem_upperHexPadded
      rw [byteLength] at ih ⊢
      rw [List.flatMap_cons, List.map_append, List.sum_append, hsizes, ih, List.length_cons,
        show (List.replicate 8 1).sum = 8 from rfl]
      omega

theorem parseHexAddr_kernelText (address : Ipv6Address) (port : UInt16) :
    parseHexAddr (kernelText address port) true =
      .ok (some (formatIpv6 ((wordsOf address.bytes).map hostValue), port.toNat)) := by
  have hcount : (wordsOf address.bytes).length = 4 := by
    rw [length_wordsOf, address.length_bytes]
  have hcolon : ':' ∉
      (wordsOf address.bytes).flatMap fun word => upperHexPadded 8 (hostValue word) := by
    rw [List.mem_flatMap]
    rintro ⟨word, -, hmem⟩
    exact colon_not_mem_upperHexPadded _ _ hmem
  have hport : parseUnsigned 16 (2 ^ 16) (upperHexPadded 4 port.toNat) = some port.toNat :=
    parseUnsigned_upperHexPadded port.toNat_lt port.toNat_lt
  have hwords := readAddressWords_hostValue (wordsOf address.bytes)
  rw [hcount] at hwords
  rw [parseHexAddr, kernelText, splitOnce_append hcolon]
  dsimp only
  rw [hport]
  dsimp only
  rw [if_pos rfl, byteLength_words, hcount, if_neg (by decide), hwords]
  rfl

end Reading

section Formatting

/-- Between the colons stand the digits of the words. -/
theorem filter_toList_intercalate (groups : List String) :
    (":".intercalate groups).toList.filter (· ≠ ':') =
      (groups.flatMap String.toList).filter (· ≠ ':') := by
  induction groups with
  | nil => rfl
  | cons group groups ih =>
      cases groups with
      | nil => simp
      | cons other groups =>
          rw [String.intercalate_cons_of_ne_nil (List.cons_ne_nil _ _), List.flatMap_cons,
            List.filter_append, ← ih]
          simp

theorem flatMap_groupsOfFour (count : Nat) (letters : List Char) :
    (groupsOfFour count letters).flatMap String.toList = letters.take (4 * count) := by
  induction count generalizing letters with
  | zero => rfl
  | succ count ih =>
      rw [groupsOfFour, List.flatMap_cons, ih, String.toList_ofList, Nat.mul_succ, Nat.add_comm,
        List.take_add]

theorem colon_not_mem_hexPadded (width value : Nat) : ':' ∉ hexPadded width value := by
  induction width generalizing value with
  | zero => exact List.not_mem_nil
  | succ width ih =>
      rw [hexPadded, List.mem_append, not_or, List.mem_singleton]
      refine ⟨ih _, ?_⟩
      intro h
      have hvalue := digitValue_hexDigit (Nat.mod_lt value (show 0 < 16 by decide))
      rw [← h, show digitValue ':' = none by decide] at hvalue
      cases hvalue

theorem length_flatMap_hexPadded (words : List Nat) :
    (words.flatMap (hexPadded 8)).length = 8 * words.length := by
  induction words with
  | nil => rfl
  | cons word words ih =>
      rw [List.flatMap_cons, List.length_append, length_hexPadded, ih, List.length_cons]
      omega

theorem filter_toList_formatIpv6 {words : List Nat} (hcount : words.length = 4) :
    (formatIpv6 words).toList.filter (· ≠ ':') = words.flatMap (hexPadded 8) := by
  have hlength := length_flatMap_hexPadded words
  rw [hcount] at hlength
  rw [formatIpv6, filter_toList_intercalate, flatMap_groupsOfFour,
    List.take_of_length_le (by omega), List.filter_eq_self]
  intro letter hletter
  obtain ⟨word, -, hmem⟩ := List.mem_flatMap.mp hletter
  rw [decide_eq_true_eq]
  rintro rfl
  exact colon_not_mem_hexPadded _ _ hmem

theorem flatMap_hexPadded_injective {first second : List Nat}
    (hfirst : ∀ word ∈ first, word < 2 ^ 32) (hsecond : ∀ word ∈ second, word < 2 ^ 32)
    (hcount : first.length = second.length)
    (h : first.flatMap (hexPadded 8) = second.flatMap (hexPadded 8)) : first = second := by
  induction first generalizing second with
  | nil => exact (List.length_eq_zero_iff.mp hcount.symm).symm
  | cons word first ih =>
      cases second with
      | nil => cases hcount
      | cons other second =>
          rw [List.forall_mem_cons] at hfirst hsecond
          rw [List.flatMap_cons, List.flatMap_cons] at h
          obtain ⟨hhead, htail⟩ := List.append_inj h (by
            rw [length_hexPadded, length_hexPadded])
          rw [hexPadded_injective hfirst.1 hsecond.1 hhead,
            ih hfirst.2 hsecond.2 (Nat.succ.inj hcount) htail]

theorem formatIpv6_injective {first second : List Nat}
    (hfirst : ∀ word ∈ first, word < 2 ^ 32) (hsecond : ∀ word ∈ second, word < 2 ^ 32)
    (hfirstCount : first.length = 4) (hsecondCount : second.length = 4)
    (h : formatIpv6 first = formatIpv6 second) : first = second := by
  apply flatMap_hexPadded_injective hfirst hsecond (hfirstCount.trans hsecondCount.symm)
  rw [← filter_toList_formatIpv6 hfirstCount, h, filter_toList_formatIpv6 hsecondCount]

theorem hexPadded_networkValue (word : Word) :
    hexPadded 8 (networkValue word) =
      hexPadded 4 (2 ^ 8 * word.first.toNat + word.second.toNat) ++
        hexPadded 4 (2 ^ 8 * word.third.toNat + word.fourth.toNat) := by
  have hthird := word.third.toNat_lt
  have hfourth := word.fourth.toNat_lt
  have hlow : 2 ^ 8 * word.third.toNat + word.fourth.toNat < 16 ^ 4 := by omega
  rw [← hexPadded_add 4 4 _ _ hlow, networkValue]
  congr 1
  omega

theorem groupsOfFour_networkValue (bytes : List UInt8) (h : bytes.length % 4 = 0) :
    groupsOfFour (2 * (wordsOf bytes).length)
        (((wordsOf bytes).map networkValue).flatMap (hexPadded 8)) =
      networkGroups bytes := by
  induction bytes using wordsOf.induct with
  | case1 first second third fourth rest ih =>
      simp only [List.length_cons] at h
      rw [wordsOf, List.length_cons, Nat.mul_succ, List.map_cons, List.flatMap_cons,
        hexPadded_networkValue, List.append_assoc, groupsOfFour, groupsOfFour, networkGroups,
        networkGroups, ← ih (by omega)]
      simp only [List.take_left' (length_hexPadded _ _), List.drop_left' (length_hexPadded _ _)]
  | case2 bytes hshort =>
      rcases bytes with _ | ⟨first, _ | ⟨second, _ | ⟨third, _ | ⟨fourth, rest⟩⟩⟩⟩
      · rfl
      · cases h
      · cases h
      · cases h
      · exact absurd rfl (hshort first second third fourth rest)

theorem networkText_eq (address : Ipv6Address) :
    networkText address = formatIpv6 ((wordsOf address.bytes).map networkValue) := by
  have hgroups := groupsOfFour_networkValue address.bytes (by rw [address.length_bytes])
  rw [length_wordsOf, address.length_bytes] at hgroups
  rw [networkText, ← hgroups]
  rfl

end Formatting

/-- An address is read as itself exactly if each of its words reads the same backwards. -/
theorem readsAddress_iff (address : Ipv6Address) (port : UInt16) :
    ReadsAddress address port ↔ ∀ word ∈ wordsOf address.bytes, Palindromic word := by
  have hcount : (wordsOf address.bytes).length = 4 := by
    rw [length_wordsOf, address.length_bytes]
  rw [ReadsAddress, parseHexAddr_kernelText, networkText_eq]
  simp only [Outcome.ok.injEq, Option.some.injEq, Prod.mk.injEq, and_true,
    ← hostValue_eq_networkValue_iff]
  constructor
  · intro h
    apply List.map_inj_left.mp
    apply formatIpv6_injective _ _ (by rw [List.length_map, hcount])
      (by rw [List.length_map, hcount]) h
    · rw [List.forall_mem_map]
      exact fun word _ => hostValue_lt word
    · rw [List.forall_mem_map]
      exact fun word _ => networkValue_lt word
  · intro h
    rw [List.map_congr_left h]

/-- The loopback address, which the kernel prints as `00000000000000000000000001000000`. -/
def loopback : Ipv6Address where
  bytes := List.replicate 15 0 ++ [1]
  length_bytes := rfl

/-- The loopback address `::1` is taken for `::100:0`. -/
theorem loopback_misread :
    parseHexAddr (kernelText loopback 443) true =
        .ok (some ("0000:0000:0000:0000:0000:0000:0100:0000", 443)) ∧
      ¬ ReadsAddress loopback 443 := by
  constructor <;> decide +kernel

end TrafficCone.KernelAddresses
