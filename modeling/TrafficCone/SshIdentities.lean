import TrafficCone.SshKeySelection

namespace TrafficCone.SshIdentities

open TrafficCone.Outcomes
open TrafficCone.StoreModels
open TrafficCone.StoreListing
open TrafficCone.LinkedCrates
open TrafficCone.LengthFraming
open TrafficCone.IpcServing
open TrafficCone.SshAgentServing
open TrafficCone.SshKeySelection

section Client

/-- Pairs of a key and a comment, so many of them, and what follows. -/
def takeIdentities : Nat → Bytes → Option (List (Bytes × Bytes) × Bytes)
  | 0, stream => some ([], stream)
  | count + 1, stream => do
      let (keyBlob, rest) ← takeFrame stream
      let (comment, rest) ← takeFrame rest
      let (identities, rest) ← takeIdentities count rest
      pure ((keyBlob, comment) :: identities, rest)

/-- What a client of the agent reads in an answer to its request for the identities. -/
def decodeIdentities : Bytes → Option (List (Bytes × Bytes) × Bytes)
  | [] => none
  | kind :: rest =>
      if kind = identitiesAnswer then do
        let (count, rest) ← readExact 4 rest
        takeIdentities (LengthFraming.fromBigEndian count) rest
      else none

/-- How a client asks for a signature with a key. -/
def signPayload (keyBlob data : Bytes) (flags : UInt32) : Bytes :=
  writeString keyBlob ++ writeString data ++ toBigEndian flags.toNat

theorem takeIdentities_flatMap {identities : List (Bytes × Bytes)}
    (hsizes : ∀ identity ∈ identities,
      identity.1.length < UInt32.size ∧ identity.2.length < UInt32.size) (rest : Bytes) :
    takeIdentities identities.length
        ((identities.flatMap fun identity => writeString identity.1 ++ writeString identity.2) ++
          rest) =
      some (identities, rest) := by
  induction identities with
  | nil => rfl
  | cons identity identities ih =>
      rw [List.forall_mem_cons] at hsizes
      rw [List.flatMap_cons, List.append_assoc, List.append_assoc, List.length_cons,
        takeIdentities, writeString, takeFrame_frame hsizes.1.1]
      change ((takeFrame (frame identity.2 ++ _)).bind _) = _
      rw [takeFrame_frame hsizes.1.2]
      change ((takeIdentities identities.length _).bind _) = _
      rw [ih hsizes.2]
      rfl

theorem decodeIdentities_eq {identities : List (Bytes × Bytes)}
    (hsizes : ∀ identity ∈ identities,
      identity.1.length < UInt32.size ∧ identity.2.length < UInt32.size)
    (hcount : identities.length < UInt32.size) :
    decodeIdentities (identitiesAnswer :: toBigEndian identities.length ++
        identities.flatMap fun identity => writeString identity.1 ++ writeString identity.2) =
      some (identities, []) := by
  have hread := readExact_append (toBigEndian identities.length)
    (identities.flatMap fun identity => writeString identity.1 ++ writeString identity.2)
  have htaken := takeIdentities_flatMap hsizes []
  rw [toBigEndian_length] at hread
  rw [List.append_nil] at htaken
  rw [List.cons_append, decodeIdentities, if_pos rfl, hread]
  change takeIdentities (LengthFraming.fromBigEndian (toBigEndian identities.length)) _ = _
  rw [fromBigEndian_toBigEndian, Nat.mod_eq_of_lt hcount, htaken]

end Client

section Agent

theorem readU32_toBigEndian {value : Nat} (h : value < UInt32.size) (rest : Bytes) :
    readU32 (toBigEndian value ++ rest) = .ok (value, rest) := by
  have hread := readExact_append (toBigEndian value) rest
  rw [toBigEndian_length] at hread
  rw [readU32, hread, Outcome.ofOption_some, Outcome.ok_bind]
  dsimp only
  rw [fromBigEndian_toBigEndian, Nat.mod_eq_of_lt h]
  rfl

theorem readString_writeString {text : Bytes} (h : text.length ≤ 256 * 1024) (rest : Bytes) :
    readString (writeString text ++ rest) = .ok (text, rest) := by
  have hsize : text.length < UInt32.size := lt_of_le_of_lt h (by decide)
  rw [readString, writeString, frame, List.append_assoc, readU32_toBigEndian hsize,
    Outcome.ok_bind]
  dsimp only
  rw [if_neg (not_lt.mpr h), readExact_append, Outcome.ofOption_some]

/-- The agent reads what the client has asked for. -/
theorem readSignRequest_signPayload {keyBlob data : Bytes} (hkeyBlob : keyBlob.length ≤ 256 * 1024)
    (hdata : data.length ≤ 256 * 1024) (flags : UInt32) :
    readSignRequest (signPayload keyBlob data flags) = .ok (keyBlob, data, flags.toNat) := by
  have hflags := readU32_toBigEndian flags.toNat_lt []
  rw [List.append_nil] at hflags
  rw [readSignRequest, signPayload, List.append_assoc, readString_writeString hkeyBlob,
    Outcome.ok_bind]
  dsimp only
  rw [readString_writeString hdata, Outcome.ok_bind]
  dsimp only
  rw [hflags]
  rfl

def identityOf (row : SshKeyRow) : Bytes × Bytes := (asBytes row.publicKey, asBytes row.label)

theorem identitiesMessage_unlocked (database : Database) (master : Bytes) :
    identitiesMessage (.unlocked database master) =
      identitiesAnswer ::
        toBigEndian (((orderByLabel (·.label) database.sshKeys).map identityOf).length) ++
        ((orderByLabel (·.label) database.sshKeys).map identityOf).flatMap
          fun identity => writeString identity.1 ++ writeString identity.2 := by
  rw [identitiesMessage, listSshKeys_unlocked, List.length_map, List.flatMap_map]
  simp only [List.length_map, List.flatMap_map]
  rfl

theorem matchingRow_of_mem {database : Database} {row : SshKeyRow} (h : row ∈ database.sshKeys) :
    ∃ found, matchingRow database (asBytes row.publicKey) = some found := by
  rw [← Option.isSome_iff_exists, matchingRow, List.find?_isSome]
  exact ⟨row, (List.perm_insertionSort _ _).mem_iff.mpr h, by simp⟩

/-- A request with a key that is in the table goes on with the row that it matches. -/
theorem handleSignRequest_fst {crates : Crates} {shared : Shared} {database : Database}
    {master keyBlob data payload : Bytes} {flags : Nat} {row : SshKeyRow}
    (hpoisoned : shared.poisoned = false) (hstore : shared.store = .unlocked database master)
    (hread : readSignRequest payload = .ok (keyBlob, data, flags))
    (hrow : matchingRow database keyBlob = some row) :
    (handleSignRequest crates payload shared).1 =
      ((getSshPlaintextKey crates shared.store (listedKey row).label).mapErr
          fun error => "failed to retrieve SSH key: " ++ error.toText) >>=
        fun plaintext => signSelected crates data flags (some (listedKey row, plaintext)) := by
  have hfound : (((orderByLabel (·.label) database.sshKeys).map listedKey).find? fun key =>
      asBytes key.publicKey = keyBlob) = some (listedKey row) := by
    rw [← Option.map_some, ← hrow]
    exact List.find?_map
  rw [handleSignRequest, hread, Effect.lift_ok_bind, withStore_fst _ hpoisoned, signWithKey_eq,
    hstore, selectKey, listSshKeys_unlocked, Outcome.mapErr_ok, Outcome.ok_bind, hfound]
  dsimp only
  cases (getSshPlaintextKey crates (.unlocked database master) (listedKey row).label).mapErr
    fun error => "failed to retrieve SSH key: " ++ error.toText <;> rfl

/-- The keys and the comments of the rows, in the order of their labels. -/
def InLabelOrder (database : Database) (rows : List SshKeyRow) : Prop :=
  rows.Perm database.sshKeys ∧ rows.Pairwise fun first second => first.label ≤ second.label

theorem inLabelOrder_orderByLabel (database : Database) :
    InLabelOrder database (orderByLabel (·.label) database.sshKeys) :=
  ⟨List.perm_insertionSort _ _, List.pairwise_insertionSort _ _⟩

/-- A request with this key is read as it was written, and goes on with a key of the table. -/
def AcceptsKey (crates : Crates) (shared : Shared) (keyBlob : Bytes) : Prop :=
  ∀ (data : Bytes) (flags : UInt32), data.length ≤ 256 * 1024 →
    readSignRequest (signPayload keyBlob data flags) = .ok (keyBlob, data, flags.toNat) ∧
      ∃ keys key, listSshKeys shared.store = .ok keys ∧
        (keys.find? fun key => asBytes key.publicKey = keyBlob) = some key ∧
          (handleSignRequest crates (signPayload keyBlob data flags) shared).1 =
            ((getSshPlaintextKey crates shared.store key.label).mapErr
                fun error => "failed to retrieve SSH key: " ++ error.toText) >>=
              fun plaintext => signSelected crates data flags.toNat (some (key, plaintext))

/-- The answer to a request for the identities is read as the table's keys and labels, and
the agent knows each of these keys when it is asked for a signature. -/
theorem identities_read_and_known {crates : Crates} {shared : Shared} {database : Database}
    {master : Bytes} (hstore : shared.store = .unlocked database master)
    (hpoisoned : shared.poisoned = false)
    (hsizes : ∀ row ∈ database.sshKeys, (asBytes row.publicKey).length ≤ 256 * 1024 ∧
      (asBytes row.label).length ≤ 256 * 1024)
    (hcount : database.sshKeys.length < 2 ^ 32) :
    ∃ answer rows, (handleRequestIdentities shared).1 = .ok answer ∧
      InLabelOrder database rows ∧
      decodeIdentities answer = some (rows.map identityOf, []) ∧
      ∀ identity ∈ rows.map identityOf, AcceptsKey crates shared identity.1 := by
  have hordered := inLabelOrder_orderByLabel database
  refine ⟨identitiesMessage shared.store, orderByLabel (·.label) database.sshKeys, ?_, hordered,
    ?_, ?_⟩
  · rw [handleRequestIdentities, withStore_fst _ hpoisoned]
  · rw [hstore, identitiesMessage_unlocked]
    apply decodeIdentities_eq
    · rw [List.forall_mem_map]
      intro row hrow
      obtain ⟨hkey, hlabel⟩ := hsizes row (hordered.1.mem_iff.mp hrow)
      exact ⟨lt_of_le_of_lt hkey (by decide), lt_of_le_of_lt hlabel (by decide)⟩
    · rw [List.length_map, hordered.1.length_eq]
      exact hcount
  · rw [List.forall_mem_map]
    intro row hrow data flags hdata
    have hmem := hordered.1.mem_iff.mp hrow
    have hread := readSignRequest_signPayload (hsizes row hmem).1 hdata flags
    obtain ⟨found, hfound⟩ := matchingRow_of_mem hmem
    refine ⟨hread, (orderByLabel (·.label) database.sshKeys).map listedKey, listedKey found, ?_,
      ?_, handleSignRequest_fst hpoisoned hstore hread hfound⟩
    · rw [hstore]
      exact listSshKeys_unlocked
    · rw [← Option.map_some, ← hfound]
      exact List.find?_map

/-- Two keys, of which the second in the table has the first label. -/
def twoKeysDatabase : Database :=
  { sshKeys := [
      { id := "s1", label := "work", publicKey := "ssh-ed25519 AAAA", algorithm := "Ed25519"
        keyEnc := [9], keySalt := [3], keyNonce := [4], createdAt := 6 },
      { id := "s2", label := "home", publicKey := "ssh-ed25519 BBBB", algorithm := "Ed25519"
        keyEnc := [9], keySalt := [3], keyNonce := [4], createdAt := 7 }] }

def twoKeys : Shared where
  store := .unlocked twoKeysDatabase [1]
  poisoned := false
  cache _ := none

theorem identities_read_and_known_twoKeys :
    decodeIdentities (identitiesMessage twoKeys.store) =
        some ([(asBytes "ssh-ed25519 BBBB", asBytes "home"),
          (asBytes "ssh-ed25519 AAAA", asBytes "work")], []) ∧
      ∃ answer rows, (handleRequestIdentities twoKeys).1 = .ok answer ∧
        InLabelOrder twoKeysDatabase rows ∧
        decodeIdentities answer = some (rows.map identityOf, []) ∧
        ∀ identity ∈ rows.map identityOf, AcceptsKey plainCrates twoKeys identity.1 :=
  ⟨by decide +kernel, identities_read_and_known rfl rfl (by decide +kernel) (by decide)⟩

end Agent

end TrafficCone.SshIdentities
