import TrafficCone.DaemonReplicas
import TrafficCone.SshKeySelection

namespace TrafficCone.KeySecrecy

open TrafficCone.Outcomes
open TrafficCone.StoreModels
open TrafficCone.LinkedCrates
open TrafficCone.StoreListing
open TrafficCone.IpcServing
open TrafficCone.SshAgentServing
open TrafficCone.SshKeySelection
open TrafficCone.DaemonRuns
open TrafficCone.TransducerRuns
open TrafficCone.DaemonReplicas

section Rows

variable (crates : Crates) (master : Bytes)

/-- What `sign_data` comes to with the key of this row. -/
def signedWith (row : KeyRow) (data : Bytes) : Outcome String Bytes :=
  signData crates (.unlocked { keys := [row] } master) row.certId data

/-- What the agent signs with the key of this row; all its keys are listed as Ed25519. -/
def agentSignedWith (row : SshKeyRow) (data : Bytes) : Outcome String (String × Bytes) := do
  let plaintext ← (privateKey crates master row).mapErr
    fun error => "failed to retrieve SSH key: " ++ error.toText
  signEd25519 crates plaintext data

def signedMessage : String × Bytes → Outcome String Bytes
  | (sigType, signature) =>
      pure (signResponse :: writeString (writeString (asBytes sigType) ++ writeString signature))

variable {crates master} {database : Database}

theorem signData_eq_signedWith (certId : String) (data : Bytes) :
    signData crates (.unlocked database master) certId data =
      match database.keys.find? fun row => row.certId = certId with
      | none => .err ("failed to retrieve key: " ++
          (StoreError.notFound ("no private key found for cert '" ++ certId ++ "'")).toText)
      | some row => signedWith crates master row data := by
  rw [signData, getPlaintextKey, Store.conn_unlocked, Outcome.ok_bind]
  cases hfound : database.keys.find? fun row => row.certId = certId with
  | none => rfl
  | some row =>
      have hcert : row.certId = certId := by simpa using List.find?_some hfound
      subst hcert
      simp [signedWith, signData, getPlaintextKey]

theorem signWithKey_eq_agentSignedWith (keyBlob data : Bytes) (flags : Nat) :
    signWithKey crates (.unlocked database master) keyBlob data flags =
      match matchingRow database keyBlob with
      | none => .ok [agentFailure]
      | some row =>
          match labelledRow database row.label with
          | none => .err ("failed to retrieve SSH key: " ++
              (StoreError.notFound ("no SSH key with label '" ++ row.label ++ "'")).toText)
          | some other => agentSignedWith crates master other data >>= signedMessage := by
  have hfound : (((orderByLabel (·.label) database.sshKeys).map listedKey).find? fun key =>
      asBytes key.publicKey = keyBlob) = (matchingRow database keyBlob).map listedKey :=
    List.find?_map
  rw [signWithKey, listSshKeys_unlocked, Outcome.mapErr_ok, Outcome.ok_bind, hfound]
  cases matchingRow database keyBlob with
  | none => rfl
  | some row =>
      simp only [Option.map_some, getSshPlaintextKey, Store.conn_unlocked, Outcome.ok_bind,
        labelledRow, listedKey]
      cases database.sshKeys.find? fun other => other.label = row.label with
      | none => rfl
      | some other =>
          simp only [Outcome.ofOption_some, Outcome.ok_bind, Store.passphrase_unlocked,
            agentSignedWith, signSshData, privateKey]
          cases decryptKey crates other.keyEnc other.keySalt other.keyNonce master <;> rfl

end Rows

section Rewritings

/-- The rows of the private keys are written in another way. -/
structure Rewriting where
  key : KeyRow → KeyRow
  sshKey : SshKeyRow → SshKeyRow

def Rewriting.database (rewriting : Rewriting) (database : Database) : Database :=
  { database with
    keys := database.keys.map rewriting.key
    sshKeys := database.sshKeys.map rewriting.sshKey }

/-- The keys are encoded or encrypted anew, but what is signed with them is the same, and so is
what can be seen of them in public. -/
structure KeepsSignatures (crates : Crates) (master : Bytes) (rewriting : Rewriting) : Prop where
  certId : ∀ row, (rewriting.key row).certId = row.certId
  label : ∀ row, (rewriting.sshKey row).label = row.label
  publicKey : ∀ row, (rewriting.sshKey row).publicKey = row.publicKey
  signed : ∀ row data,
    signedWith crates master (rewriting.key row) data = signedWith crates master row data
  agentSigned : ∀ row data,
    agentSignedWith crates master (rewriting.sshKey row) data =
      agentSignedWith crates master row data

variable {crates : Crates} {master : Bytes} {rewriting : Rewriting} {database : Database}

theorem KeepsSignatures.signData (h : KeepsSignatures crates master rewriting) (certId : String)
    (data : Bytes) :
    IpcServing.signData crates (.unlocked (rewriting.database database) master) certId data =
      IpcServing.signData crates (.unlocked database master) certId data := by
  have hfound : ((rewriting.database database).keys.find? fun row => row.certId = certId) =
      (database.keys.find? fun row => row.certId = certId).map rewriting.key := by
    rw [Rewriting.database, List.find?_map]
    simp only [Function.comp_def, h.certId]
  rw [signData_eq_signedWith, signData_eq_signedWith, hfound]
  cases database.keys.find? fun row => row.certId = certId with
  | none => rfl
  | some row => exact h.signed row data

theorem KeepsSignatures.orderByLabel (h : KeepsSignatures crates master rewriting) :
    StoreListing.orderByLabel (·.label) (rewriting.database database).sshKeys =
      (StoreListing.orderByLabel (·.label) database.sshKeys).map rewriting.sshKey := by
  symm
  apply List.map_insertionSort
  intro first _ second _
  simp only [h.label]

theorem KeepsSignatures.matchingRow (h : KeepsSignatures crates master rewriting)
    (keyBlob : Bytes) :
    SshKeySelection.matchingRow (rewriting.database database) keyBlob =
      (SshKeySelection.matchingRow database keyBlob).map rewriting.sshKey := by
  rw [SshKeySelection.matchingRow, h.orderByLabel, List.find?_map]
  simp only [Function.comp_def, h.publicKey]
  rfl

theorem KeepsSignatures.labelledRow (h : KeepsSignatures crates master rewriting)
    (label : String) :
    SshKeySelection.labelledRow (rewriting.database database) label =
      (SshKeySelection.labelledRow database label).map rewriting.sshKey := by
  rw [SshKeySelection.labelledRow, Rewriting.database, List.find?_map]
  simp only [Function.comp_def, h.label]
  rfl

theorem KeepsSignatures.signWithKey (h : KeepsSignatures crates master rewriting)
    (keyBlob data : Bytes) (flags : Nat) :
    SshAgentServing.signWithKey crates (.unlocked (rewriting.database database) master) keyBlob
        data flags =
      SshAgentServing.signWithKey crates (.unlocked database master) keyBlob data flags := by
  rw [signWithKey_eq_agentSignedWith, signWithKey_eq_agentSignedWith, h.matchingRow]
  cases SshKeySelection.matchingRow database keyBlob with
  | none => rfl
  | some row =>
      simp only [Option.map_some, h.labelledRow, h.label]
      cases SshKeySelection.labelledRow database row.label with
      | none => rfl
      | some other => simp only [Option.map_some, h.agentSigned]

theorem KeepsSignatures.identitiesMessage (h : KeepsSignatures crates master rewriting) :
    SshAgentServing.identitiesMessage (.unlocked (rewriting.database database) master) =
      SshAgentServing.identitiesMessage (.unlocked database master) := by
  simp only [SshAgentServing.identitiesMessage, listSshKeys_unlocked, h.orderByLabel,
    List.map_map, List.length_map, List.flatMap_map, Function.comp_def, listedKey, h.label,
    h.publicKey]

theorem KeepsSignatures.servesAlike (h : KeepsSignatures crates master rewriting)
    (database : Database) :
    ServesAlike crates master (rewriting.database database) database where
  certs := rfl
  apps := rfl
  routes := rfl
  identities := h.identitiesMessage
  signs := h.signData
  agentSigns := h.signWithKey

/-- Nothing that either server answers, over any run and with any writing of others in between,
tells more of a private key than what is signed with it: neither how it is encoded nor how it
is encrypted. -/
theorem keys_show_in_signatures_alone (setup : Setup)
    (h : KeepsSignatures setup.crates master rewriting) (database : Database)
    (events : List Event) :
    (run (step setup) (started (rewriting.database database) master)
        (events.map (writtenThrough rewriting.database))).2 =
      (run (step setup) (started database master) events).2 :=
  run_written_through h.servesAlike database events

end Rewritings

section Laptop

open TrafficCone.ClaimedPidInfluence (twoAppsDatabase)

/-- Keys are encrypted with another salt, and an encoding of a seed gets a longer lead. -/
def laptopRewriting : Rewriting where
  key row := { row with keySalt := row.keySalt.reverse }
  sshKey row := if 48 ≤ row.keyEnc.length then { row with keyEnc := 0 :: row.keyEnc } else row

theorem decryptKey_reverse (ciphertext salt nonce master : Bytes) :
    decryptKey plainCrates ciphertext salt.reverse nonce master =
      decryptKey plainCrates ciphertext salt nonce master := by
  rw [decryptKey, decryptKey, deriveKey, deriveKey]
  simp only [plainCrates, List.length_reverse]
  split <;> rfl

/-- The seed is what the encoding ends with. -/
theorem agentSignedWith_longer {master : Bytes} {row : SshKeyRow}
    (hlong : 48 ≤ row.keyEnc.length) (data : Bytes) :
    agentSignedWith plainCrates master { row with keyEnc := 0 :: row.keyEnc } data =
      agentSignedWith plainCrates master row data := by
  have hlonger : ¬ (row.keyEnc.length + 1 < 16) := by omega
  have hciphertext : ¬ (row.keyEnc.length < 16) := by omega
  have htaken : row.keyEnc.length + 1 - 16 = row.keyEnc.length - 16 + 1 := by omega
  have hplaintext : (row.keyEnc.take (row.keyEnc.length - 16)).length =
      row.keyEnc.length - 16 := by
    rw [List.length_take]
    omega
  have hseed : ∀ plaintext : Bytes, 32 ≤ plaintext.length →
      signEd25519 plainCrates (0 :: plaintext) data = signEd25519 plainCrates plaintext data := by
    intro plaintext hlength
    have hdropped : plaintext.length + 1 - 32 = plaintext.length - 32 + 1 := by omega
    rw [signEd25519, signEd25519, List.length_cons, if_neg (by omega), if_neg (by omega),
      hdropped, List.drop_succ_cons]
  simp only [agentSignedWith, privateKey, decryptKey]
  cases deriveKey plainCrates master row.keySalt with
  | err error => rfl
  | panicked => rfl
  | ok derived =>
      simp only [Outcome.ok_bind]
      split
      · simp only [plainCrates, List.length_cons, if_neg hlonger, if_neg hciphertext, htaken,
          List.take_succ_cons, Outcome.ofOption_some, Outcome.mapErr_ok, Outcome.ok_bind]
        exact hseed _ (by omega)
      · rfl

theorem keepsSignatures_laptopRewriting (master : Bytes) :
    KeepsSignatures plainCrates master laptopRewriting where
  certId _ := rfl
  label row := by
    simp only [laptopRewriting]
    split <;> rfl
  publicKey row := by
    simp only [laptopRewriting]
    split <;> rfl
  signed row data := by
    simp [signedWith, signData, getPlaintextKey, laptopRewriting, decryptKey_reverse]
  agentSigned row data := by
    simp only [laptopRewriting]
    split
    · rename_i hlong
      exact agentSignedWith_longer hlong data
    · rfl

def laptopDatabase : Database := { twoAppsDatabase with sshKeys := [olderKey] }

theorem keys_show_in_signatures_laptop :
    (run (step laptopSetup) (started (laptopRewriting.database laptopDatabase) [7])
        (twoRequests.map (writtenThrough laptopRewriting.database))).2 =
      (run (step laptopSetup) (started laptopDatabase [7]) twoRequests).2 :=
  keys_show_in_signatures_alone laptopSetup (keepsSignatures_laptopRewriting [7]) laptopDatabase
    twoRequests

end Laptop

end TrafficCone.KeySecrecy
