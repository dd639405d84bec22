import Mathlib.Data.List.Forall2
import TrafficCone.RestoredTables

namespace TrafficCone.RestoredBlobs

open TrafficCone.Outcomes
open TrafficCone.StoreModels
open TrafficCone.HexadecimalText
open TrafficCone.DatabaseTables
open TrafficCone.BackupArchives
open TrafficCone.BackupRestoring
open TrafficCone.BackupRoundTrip
open TrafficCone.RestoredTables

/-- The bytes are the ones that the text of the backup stands for. -/
def Spells (text : String) (bytes : Bytes) : Prop := SameLetters (hexEncode bytes) text

def Decodes (text : String) : Prop := ∃ bytes, hexDecode text = .ok bytes

/-- The rows of the inserted certificates and keys, which stand behind the old ones, have the
blobs that the backup spells. -/
structure BlobsKept (payload : BackupPayload) (before after : Database) : Prop where
  certs : List.Forall₂ (fun entry row => row.id = entry.id ∧ Spells entry.certDer row.certDer)
    (newCerts payload before) (after.certs.drop before.certs.length)
  keys : List.Forall₂
    (fun entry row => row.certId = entry.id ∧ Spells entry.keyEnc row.keyEnc ∧
      Spells entry.keySalt row.keySalt ∧ Spells entry.keyNonce row.keyNonce)
    (newCerts payload before) (after.keys.drop before.keys.length)
  sshKeys : List.Forall₂
    (fun entry row => row.id = entry.id ∧ Spells entry.keyEnc row.keyEnc ∧
      Spells entry.keySalt row.keySalt ∧ Spells entry.keyNonce row.keyNonce)
    (newSshKeys payload before) (after.sshKeys.drop before.sshKeys.length)

/-- What is to be inserted has nothing but hexadecimal in the fields of its key. -/
structure KeysDecode (payload : BackupPayload) (database : Database) : Prop where
  certs : ∀ entry ∈ newCerts payload database,
    Decodes entry.keyEnc ∧ Decodes entry.keySalt ∧ Decodes entry.keyNonce
  sshKeys : ∀ entry ∈ newSshKeys payload database,
    Decodes entry.keyEnc ∧ Decodes entry.keySalt ∧ Decodes entry.keyNonce

theorem decodes_of_spells_nil {text : String} (h : Spells text []) : Decodes text := by
  have hempty : text.toList = [] := List.map_eq_nil_iff.mp (Eq.symm h)
  obtain rfl : text = "" := String.toList_eq_nil_iff.mp hempty
  exact ⟨[], by decide⟩

/-- A default in place of bad text is not what the text says. -/
theorem spells_decodeOrEmpty_iff {text : String} :
    Spells text (decodeOrEmpty text) ↔ Decodes text := by
  rw [decodeOrEmpty]
  cases hdecoded : hexDecode text with
  | ok bytes => exact ⟨fun _ => ⟨bytes, hdecoded⟩, fun _ => hexEncode_of_hexDecode hdecoded⟩
  | error error =>
      constructor
      · exact decodes_of_spells_nil
      · rintro ⟨bytes, hbytes⟩
        rw [hdecoded] at hbytes
        cases hbytes

theorem forall₂_drawnKeys_iff {host : Host} {related : BackupCert → KeyRow → Prop}
    {good : BackupCert → Prop} (h : ∀ entry id, related entry (keyRow entry id) ↔ good entry)
    (entries : List BackupCert) (drawn : Nat) :
    List.Forall₂ related entries (drawnKeys host drawn entries) ↔
      ∀ entry ∈ entries, good entry := by
  induction entries generalizing drawn with
  | nil => simp [drawnKeys]
  | cons entry rest ih =>
      rw [drawnKeys_cons, List.forall₂_cons, h, ih, List.forall_mem_cons]

variable {codec : BackupCodec} {host : Host} {password : String} {backup : Bytes}
  {payload : BackupPayload} {database restored : Database} {master : Bytes}
  {result : RestoreResult}

/-- A restore that goes through keeps every blob exactly if the keys to be inserted are all
hexadecimal; the certificates themselves are checked. -/
theorem blobs_kept_iff (hread : Reads codec password backup payload)
    (h : restoreBackup codec host backup password (.unlocked database master) =
      (.ok result, .unlocked restored master)) :
    BlobsKept payload database restored ↔ KeysDecode payload database := by
  obtain ⟨-, rfl, hcerts⟩ := restoreBackup_adds hread h
  have hkeys : ∀ entry id, (keyRow entry id).certId = entry.id ∧
      Spells entry.keyEnc (keyRow entry id).keyEnc ∧
        Spells entry.keySalt (keyRow entry id).keySalt ∧
          Spells entry.keyNonce (keyRow entry id).keyNonce ↔
      Decodes entry.keyEnc ∧ Decodes entry.keySalt ∧ Decodes entry.keyNonce := by
    intro entry id
    simp only [keyRow, spells_decodeOrEmpty_iff, true_and]
  have hsshKeys : ∀ entry, (sshKeyRow entry).id = entry.id ∧
      Spells entry.keyEnc (sshKeyRow entry).keyEnc ∧
        Spells entry.keySalt (sshKeyRow entry).keySalt ∧
          Spells entry.keyNonce (sshKeyRow entry).keyNonce ↔
      Decodes entry.keyEnc ∧ Decodes entry.keySalt ∧ Decodes entry.keyNonce := by
    intro entry
    simp only [sshKeyRow, spells_decodeOrEmpty_iff, true_and]
  constructor
  · intro hkept
    have hkeptKeys := hkept.keys
    have hkeptSshKeys := hkept.sshKeys
    simp only [extended, List.drop_left] at hkeptKeys hkeptSshKeys
    rw [forall₂_drawnKeys_iff hkeys] at hkeptKeys
    rw [List.forall₂_map_right_iff, List.forall₂_same] at hkeptSshKeys
    exact
      { certs := hkeptKeys
        sshKeys := fun entry hentry => (hsshKeys entry).mp (hkeptSshKeys entry hentry) }
  · intro hdecode
    constructor
    · simp only [extended, List.drop_left]
      rw [List.forall₂_map_right_iff, List.forall₂_same]
      exact fun entry hentry => ⟨rfl, spells_decodeOrEmpty_iff.mpr (hcerts entry hentry)⟩
    · simp only [extended, List.drop_left]
      exact (forall₂_drawnKeys_iff hkeys _ _).mpr hdecode.certs
    · simp only [extended, List.drop_left]
      rw [List.forall₂_map_right_iff, List.forall₂_same]
      exact fun entry hentry => (hsshKeys entry).mpr (hdecode.sshKeys entry hentry)

theorem blobs_kept_iff_office :
    ∃ result restored,
      restoreBackup (onePayload officePayload) countingHost (asBytes "pwjson") "pw"
        (.unlocked {} [2]) = (.ok result, .unlocked restored [2]) ∧
      (BlobsKept officePayload {} restored ↔
        KeysDecode officePayload {}) := by
  have hread := onePayload_reads officePayload
  have hrestored : (restorePayload countingHost officePayload
      { database := {}, drawn := 0 }).1 = .ok (counters officePayload {}) := by
    decide +kernel
  have hrun := @restoreBackup_of_restorePayload _ _ _ _ _ _ [2] _ hread hrestored
  exact ⟨_, _, hrun, blobs_kept_iff hread hrun⟩

/-- A backup of one SSH key whose ciphertext has lost a digit. -/
def damagedPayload : BackupPayload where
  version := 1
  exportedAt := 50
  certs := []
  sshKeys := [
    { id := "s1", label := "git", publicKey := "ssh-ed25519 AAAA", algorithm := "Ed25519"
      keyEnc := "0a0b0", keySalt := "03", keyNonce := "04", createdAt := 6 }]
  caCerts := []
  apps := []
  routes := []
  sshRoutes := []

theorem damaged_key_stored_empty :
    ∃ result restored,
      restoreBackup (onePayload damagedPayload) countingHost (asBytes "pwjson") "pw"
        (.unlocked {} [2]) = (.ok result, .unlocked restored [2]) ∧
      result.sshKeys = 1 ∧ restored.sshKeys.map (·.keyEnc) = [[]] ∧
      ¬ BlobsKept damagedPayload {} restored := by
  have hrestored : (restorePayload countingHost damagedPayload
      { database := {}, drawn := 0 }).1 = .ok (counters damagedPayload {}) := by
    decide +kernel
  have hrun := @restoreBackup_of_restorePayload _ _ _ _ _ _ [2] _ (onePayload_reads _) hrestored
  refine ⟨_, _, hrun, by decide +kernel, by decide +kernel, ?_⟩
  intro hkept
  have hrows : newSshKeys damagedPayload {} = damagedPayload.sshKeys := by decide +kernel
  have hadded : (restorePayload countingHost damagedPayload
      { database := {}, drawn := 0 }).2.database.sshKeys =
        damagedPayload.sshKeys.map sshKeyRow := by decide +kernel
  have hspelled := hkept.sshKeys
  rw [hrows, hadded] at hspelled
  cases hspelled with
  | cons hfirst _ =>
      have hletters : SameLetters (hexEncode []) "0a0b0" := hfirst.2.1
      revert hletters
      rw [SameLetters]
      decide +kernel

end TrafficCone.RestoredBlobs
