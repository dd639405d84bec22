import TrafficCone.SshAgentServing

namespace TrafficCone.SshKeySelection

open TrafficCone.Outcomes
open TrafficCone.StoreModels
open TrafficCone.StoreListing
open TrafficCone.LinkedCrates
open TrafficCone.IpcServing
open TrafficCone.SshAgentServing

section Signing

variable (crates : Crates)

/-- The entry that `signWithKey` finds, and the private key it reads for it. -/
def selectKey (store : Store) (keyBlob : Bytes) : Outcome String (Option (SshKey × Bytes)) := do
  let keys ← (listSshKeys store).mapErr StoreError.toText
  match keys.find? fun key => asBytes key.publicKey = keyBlob with
  | none => pure none
  | some key => do
      let plaintext ← (getSshPlaintextKey crates store key.label).mapErr
        fun error => "failed to retrieve SSH key: " ++ error.toText
      pure (some (key, plaintext))

def signSelected (data : Bytes) (flags : Nat) : Option (SshKey × Bytes) → Outcome String Bytes
  | none => pure [agentFailure]
  | some (key, plaintext) => do
      let (sigType, signature) ← signSshData crates plaintext data key.algorithm flags
      pure (signResponse :: writeString (writeString (asBytes sigType) ++ writeString signature))

variable {crates} {store : Store} {keyBlob data : Bytes} {flags : Nat}

/-- What is signed is signed with the private key that has been selected. -/
theorem signWithKey_eq :
    signWithKey crates store keyBlob data flags =
      selectKey crates store keyBlob >>= signSelected crates data flags := by
  rw [signWithKey, selectKey]
  cases (listSshKeys store).mapErr StoreError.toText with
  | err error => rfl
  | panicked => rfl
  | ok keys =>
      simp only [Outcome.ok_bind]
      cases keys.find? fun key => asBytes key.publicKey = keyBlob with
      | none => rfl
      | some key =>
          simp only
          cases (getSshPlaintextKey crates store key.label).mapErr
            fun error => "failed to retrieve SSH key: " ++ error.toText <;> rfl

theorem signSelected_of_listed {keys : List SshKey} (hkeys : listSshKeys store = .ok keys)
    {key : SshKey} (hkey : key ∈ keys) {plaintext : Bytes} :
    (∃ rest, signSelected crates data flags (some (key, plaintext)) =
      .ok (signResponse :: rest)) ↔ 32 ≤ plaintext.length := by
  rw [← @exists_signEd25519_iff crates plaintext data]
  simp only [signSelected, listSshKeys_algorithm hkeys hkey, signSshData]
  constructor
  · rintro ⟨rest, hsigned⟩
    obtain ⟨⟨sigType, signature⟩, hdata, -⟩ := Outcome.bind_eq_ok_iff.mp hsigned
    exact ⟨sigType, signature, hdata⟩
  · rintro ⟨sigType, signature, hdata⟩
    exact ⟨_, by rw [hdata]; rfl⟩

end Signing

section Rows

variable (crates : Crates) (database : Database) (master : Bytes)

/-- The row a request is matched with: the first in the order of labels with that key. -/
def matchingRow (keyBlob : Bytes) : Option SshKeyRow :=
  (orderByLabel (·.label) database.sshKeys).find? fun row => asBytes row.publicKey = keyBlob

/-- The row that is read for a label: the first in the order of the table. -/
def labelledRow (label : String) : Option SshKeyRow :=
  database.sshKeys.find? fun row => row.label = label

def privateKey (row : SshKeyRow) : Outcome StoreError Bytes :=
  decryptKey crates row.keyEnc row.keySalt row.keyNonce master

/-- The label of the matching row leads to a private key of a row with the requested public
key, if it leads to one that can sign. -/
def LabelLeadsBack (keyBlob : Bytes) : Prop :=
  ∀ row other plaintext, matchingRow database keyBlob = some row →
    labelledRow database row.label = some other →
      privateKey crates master other = .ok plaintext → 32 ≤ plaintext.length →
        ∃ requested ∈ database.sshKeys, asBytes requested.publicKey = keyBlob ∧
          privateKey crates master requested = .ok plaintext

variable {crates database master} {keyBlob : Bytes}

theorem mem_of_matchingRow {row : SshKeyRow} (h : matchingRow database keyBlob = some row) :
    row ∈ database.sshKeys ∧ asBytes row.publicKey = keyBlob :=
  ⟨(List.perm_insertionSort _ _).mem_iff.mp (List.mem_of_find?_eq_some h),
    by simpa using List.find?_some h⟩

theorem labelLeadsBack_of_nodup (hlabels : (database.sshKeys.map (·.label)).Nodup) :
    LabelLeadsBack crates database master keyBlob := by
  intro row other plaintext hrow hother hplaintext _
  obtain ⟨hmem, hpublic⟩ := mem_of_matchingRow hrow
  have hlabel : other.label = row.label := by simpa using List.find?_some hother
  obtain rfl : other = row :=
    List.inj_on_of_nodup_map hlabels (List.mem_of_find?_eq_some hother) hmem hlabel
  exact ⟨other, hmem, hpublic, hplaintext⟩

theorem getSshPlaintextKey_eq_ok_iff {label : String} {plaintext : Bytes} :
    getSshPlaintextKey crates (.unlocked database master) label = .ok plaintext ↔
      ∃ row, labelledRow database label = some row ∧
        privateKey crates master row = .ok plaintext := by
  rw [getSshPlaintextKey, Store.conn_unlocked, Outcome.ok_bind, labelledRow]
  cases database.sshKeys.find? fun row => row.label = label with
  | none => simp
  | some row => simp [privateKey]

/-- The entry that is listed for a row. -/
def listedKey (row : SshKeyRow) : SshKey :=
  { id := row.id
    label := row.label
    publicKey := row.publicKey
    algorithm := .ed25519
    keyEnc := row.keyEnc
    keySalt := row.keySalt
    keyNonce := row.keyNonce
    createdAt := row.createdAt }

theorem listSshKeys_unlocked :
    listSshKeys (.unlocked database master) =
      .ok ((orderByLabel (·.label) database.sshKeys).map listedKey) := rfl

theorem selectKey_eq_some_iff {key : SshKey} {plaintext : Bytes} :
    selectKey crates (.unlocked database master) keyBlob = .ok (some (key, plaintext)) ↔
      ∃ row other, matchingRow database keyBlob = some row ∧
        labelledRow database row.label = some other ∧
        privateKey crates master other = .ok plaintext ∧ key = listedKey row := by
  have hfound : (((orderByLabel (·.label) database.sshKeys).map listedKey).find? fun key =>
      asBytes key.publicKey = keyBlob) = (matchingRow database keyBlob).map listedKey :=
    List.find?_map
  rw [selectKey, listSshKeys_unlocked, Outcome.mapErr_ok, Outcome.ok_bind, hfound]
  cases hrow : matchingRow database keyBlob with
  | none => simp
  | some row =>
      simp only [Option.map_some, Outcome.bind_eq_ok_iff, Outcome.mapErr_eq_ok_iff,
        getSshPlaintextKey_eq_ok_iff, Outcome.pure_eq_ok, Outcome.ok.injEq, Option.some.injEq,
        Prod.mk.injEq]
      constructor
      · rintro ⟨_, ⟨other, hother, hplaintext⟩, rfl, rfl⟩
        exact ⟨row, other, rfl, hother, hplaintext, rfl⟩
      · rintro ⟨_, other, rfl, hother, hplaintext, rfl⟩
        exact ⟨plaintext, ⟨other, hother, hplaintext⟩, rfl, rfl⟩

end Rows

section Requests

variable (crates : Crates) (shared : Shared) (payload : Bytes)

/-- If the request is answered with a signature, then the private key that made it is that
of a row with the requested public key. -/
def SignsAsRequested : Prop :=
  ∀ rest keyBlob data flags key plaintext,
    (handleSignRequest crates payload shared).1 = .ok (signResponse :: rest) →
      readSignRequest payload = .ok (keyBlob, data, flags) →
        selectKey crates shared.store keyBlob = .ok (some (key, plaintext)) →
          ∃ database master row, shared.store = .unlocked database master ∧
            row ∈ database.sshKeys ∧ asBytes row.publicKey = keyBlob ∧
              privateKey crates master row = .ok plaintext

variable {crates shared payload}

theorem listedKey_mem {database : Database} {keyBlob : Bytes} {row : SshKeyRow}
    (hrow : matchingRow database keyBlob = some row) :
    listedKey row ∈ (orderByLabel (·.label) database.sshKeys).map listedKey :=
  List.mem_map_of_mem (List.mem_of_find?_eq_some hrow)

theorem labelLeadsBack_of_signsAsRequested (hsigns : SignsAsRequested crates shared payload)
    {database : Database} {master keyBlob data : Bytes} {flags : Nat}
    (hpoisoned : shared.poisoned = false) (hstore : shared.store = .unlocked database master)
    (hread : readSignRequest payload = .ok (keyBlob, data, flags)) :
    LabelLeadsBack crates database master keyBlob := by
  intro row other plaintext hrow hother hplaintext hlength
  have hselected : selectKey crates shared.store keyBlob =
      .ok (some (listedKey row, plaintext)) := by
    rw [hstore]
    exact selectKey_eq_some_iff.mpr ⟨row, other, hrow, hother, hplaintext, rfl⟩
  obtain ⟨rest, hsigned⟩ := (@signSelected_of_listed crates (.unlocked database master) data
    flags _ listSshKeys_unlocked _ (listedKey_mem hrow) plaintext).mpr hlength
  have hanswer : (handleSignRequest crates payload shared).1 = .ok (signResponse :: rest) := by
    rw [handleSignRequest_eq_ok_iff]
    refine ⟨hpoisoned, keyBlob, data, flags, hread, ?_⟩
    rw [signWithKey_eq, hselected, Outcome.ok_bind, hsigned]
  obtain ⟨database', master', requested, hstore', hmem, hpublic, hprivate⟩ :=
    hsigns rest keyBlob data flags _ plaintext hanswer hread hselected
  obtain ⟨rfl, rfl⟩ := Store.unlocked.inj (hstore.symm.trans hstore')
  exact ⟨requested, hmem, hpublic, hprivate⟩

theorem signsAsRequested_of_labelLeadsBack
    (hleads : ∀ database master keyBlob data flags, shared.poisoned = false →
      shared.store = .unlocked database master →
        readSignRequest payload = .ok (keyBlob, data, flags) →
          LabelLeadsBack crates database master keyBlob) :
    SignsAsRequested crates shared payload := by
  intro rest keyBlob data flags key plaintext hanswer hread hselected
  obtain ⟨hpoisoned, keyBlob', data', flags', hread', hsigned⟩ :=
    handleSignRequest_eq_ok_iff.mp hanswer
  obtain ⟨rfl, rfl, rfl⟩ : keyBlob = keyBlob' ∧ data = data' ∧ flags = flags' := by
    simpa using hread.symm.trans hread'
  rw [signWithKey_eq, hselected, Outcome.ok_bind] at hsigned
  cases hstore : shared.store with
  | locked =>
      rw [hstore] at hselected
      cases hselected
  | unlocked database master =>
      rw [hstore] at hselected
      obtain ⟨row, other, hrow, hother, hplaintext, rfl⟩ := selectKey_eq_some_iff.mp hselected
      have hlength := (@signSelected_of_listed crates (.unlocked database master) data flags _
        listSshKeys_unlocked _ (listedKey_mem hrow) plaintext).mp ⟨rest, hsigned⟩
      obtain ⟨requested, hmem, hpublic, hprivate⟩ :=
        hleads database master keyBlob data flags hpoisoned hstore hread row other plaintext
          hrow hother hplaintext hlength
      exact ⟨database, master, requested, rfl, hmem, hpublic, hprivate⟩

variable (crates shared payload)

/-- The agent signs as requested exactly if the label of the matching row leads back to the
requested key. -/
theorem signsAsRequested_iff :
    SignsAsRequested crates shared payload ↔
      ∀ database master keyBlob data flags, shared.poisoned = false →
        shared.store = .unlocked database master →
          readSignRequest payload = .ok (keyBlob, data, flags) →
            LabelLeadsBack crates database master keyBlob := by
  constructor
  · intro hsigns database master keyBlob data flags hpoisoned hstore hread
    exact labelLeadsBack_of_signsAsRequested hsigns hpoisoned hstore hread
  · exact signsAsRequested_of_labelLeadsBack

end Requests

section SharedLabel

def olderKey : SshKeyRow :=
  { id := "s1"
    label := "git"
    publicKey := "AAAA"
    algorithm := "Ed25519"
    keyEnc := List.replicate 32 1 ++ List.replicate 16 0
    keySalt := List.replicate 32 5
    keyNonce := List.replicate 12 6
    createdAt := 1 }

def newerKey : SshKeyRow :=
  { olderKey with
    id := "s2"
    publicKey := "BBBB"
    keyEnc := List.replicate 32 2 ++ List.replicate 16 0
    createdAt := 2 }

/-- Two keys under one label. -/
def twinShared : Shared where
  store := .unlocked { sshKeys := [olderKey, newerKey] } [7]
  poisoned := false
  cache _ := none

def signBbbb : Bytes := writeString (asBytes "BBBB") ++ writeString [9] ++ [0, 0, 0, 0]

/-- A request for the newer key is signed with the older one. -/
theorem signBbbb_signed_with_olderKey :
    (handleSignRequest plainCrates signBbbb twinShared).1 =
        .ok (signResponse :: writeString (writeString (asBytes "ssh-ed25519") ++
          writeString (List.replicate 32 1 ++ [9] ++ List.replicate 31 0))) ∧
      privateKey plainCrates [7] olderKey = .ok (List.replicate 32 1) ∧
      privateKey plainCrates [7] newerKey = .ok (List.replicate 32 2) ∧
      ¬ SignsAsRequested plainCrates twinShared signBbbb := by
  refine ⟨by decide +kernel, by decide +kernel, by decide +kernel, ?_⟩
  intro hsigns
  have hread : readSignRequest signBbbb = .ok (asBytes "BBBB", [9], 0) := by decide +kernel
  obtain ⟨requested, hmem, hpublic, hprivate⟩ :=
    labelLeadsBack_of_signsAsRequested hsigns rfl rfl hread newerKey olderKey
      (List.replicate 32 1) (by decide +kernel) (by decide +kernel) (by decide +kernel)
      (by decide)
  rcases List.mem_cons.mp hmem with rfl | hmem
  · exact absurd hpublic (by decide +kernel)
  · obtain rfl := List.mem_singleton.mp hmem
    exact absurd hprivate (by decide +kernel)

end SharedLabel

end TrafficCone.SshKeySelection
