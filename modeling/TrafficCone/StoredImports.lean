import TrafficCone.ImportAtomicity
import TrafficCone.KeyCustody
import TrafficCone.PrivateKeyEncodings

namespace TrafficCone.StoredImports

open TrafficCone.Outcomes
open TrafficCone.StoreModels
open TrafficCone.LinkedCrates
open TrafficCone.StoreListing
open TrafficCone.DatabaseTables
open TrafficCone.BackupArchives
open TrafficCone.DerEncoding
open TrafficCone.PrivateKeyEncodings
open TrafficCone.CertificateImport
open TrafficCone.KeyCustody
open TrafficCone.ImportAtomicity

def getCertById (store : Store) (id : String) : Outcome StoreError Cert := do
  let database ← store.conn
  Outcome.ofOption (.notFound ("no certificate with id '" ++ id ++ "'"))
    (database.certs.find? fun row => row.id = id)

/-- The parser of private keys accepts the octets just if they are PKCS #8, and finds the
algorithm. -/
def ReadsPrivateKeys (parsers : DerParsers) (der : Bytes) : Prop :=
  ∀ oid, parsers.privateKeyInfoFromDer der = .ok oid ↔
    ∃ info : PrivateKeyInfo, info.EncodedAs der ∧ oid = dotted info.algorithm.oid

theorem exists_encodedAs_of_detectKeyAlgorithm {parsers : DerParsers}
    {keyDer : Bytes} (hparsers : ReadsPrivateKeys parsers keyDer) {algorithm : KeyAlgorithm}
    (h : detectKeyAlgorithm parsers keyDer = .ok algorithm) :
    ∃ info : PrivateKeyInfo, info.EncodedAs keyDer := by
  obtain ⟨oid, hoid, -⟩ := Outcome.bind_eq_ok_iff.mp h
  rw [Outcome.mapErr_eq_ok_iff, Outcome.ofExcept_eq_ok_iff] at hoid
  obtain ⟨info, hencoded, -⟩ := (hparsers oid).mp hoid
  exact ⟨info, hencoded⟩

section Storing

variable (host : Host) (certDer : Bytes) (label : String) (metadata : CertMeta)
  (algorithm : KeyAlgorithm) (encrypted : Bytes × Bytes × Bytes) (database : Database)

/-- No row has a value of the three new ones where it must be unique. -/
structure Admitted : Prop where
  cert : certs.conflict database (importedCert host (host.newId 0) certDer label metadata) = none
  key : keys.conflict database (importedKey (host.newId 1) (host.newId 0) algorithm encrypted) =
    none
  entry : auditLog.conflict database (importedEntry host (host.newId 2) (host.newId 0) label) =
    none

def withImport : Database :=
  { withCertAndKey host certDer label metadata algorithm encrypted database with
    auditLog :=
      database.auditLog ++ [importedEntry host (host.newId 2) (host.newId 0) label] }

def importResult : ImportResult where
  certId := host.newId 0
  summary := summaryOf label algorithm metadata
  caChain := []

variable {host certDer label metadata algorithm encrypted database}

theorem insertImported_eq_ok_iff {result : ImportResult} {session : Session} :
    insertImported host certDer label metadata algorithm encrypted
        { database := database, drawn := 0 } = (.ok result, session) ↔
      Admitted host certDer label metadata algorithm encrypted database ∧
        result = importResult host label metadata algorithm ∧
        session =
          { database := withImport host certDer label metadata algorithm encrypted database
            drawn := 3 } := by
  have hreferences : keys.references (withCert host certDer label metadata database)
      (importedKey (host.newId 1) (host.newId 0) algorithm encrypted) = true := by
    simp [keys, withCert, importedKey, importedCert]
  constructor
  · intro h
    obtain ⟨certId, _, hdrawn, h⟩ := Effect.bind_eq_ok_iff.mp h
    obtain ⟨hcertId, rfl⟩ := Prod.mk.inj hdrawn
    obtain rfl := Outcome.ok.inj hcertId
    obtain ⟨keyId, _, hdrawn, h⟩ := Effect.bind_eq_ok_iff.mp h
    obtain ⟨hkeyId, rfl⟩ := Prod.mk.inj hdrawn
    obtain rfl := Outcome.ok.inj hkeyId
    obtain ⟨_, _, hcert, h⟩ := Effect.bind_eq_ok_iff.mp h
    obtain ⟨hcertUnique, -, rfl⟩ := certs.insert_eq_ok_iff.mp hcert
    obtain ⟨_, _, hkey, h⟩ := Effect.bind_eq_ok_iff.mp h
    obtain ⟨hkeyUnique, -, rfl⟩ := keys.insert_eq_ok_iff.mp hkey
    obtain ⟨auditId, _, hdrawn, h⟩ := Effect.bind_eq_ok_iff.mp h
    obtain ⟨hauditId, rfl⟩ := Prod.mk.inj hdrawn
    obtain rfl := Outcome.ok.inj hauditId
    obtain ⟨_, _, hentry, h⟩ := Effect.bind_eq_ok_iff.mp h
    obtain ⟨hentryUnique, -, rfl⟩ := auditLog.insert_eq_ok_iff.mp hentry
    obtain ⟨hresult, rfl⟩ := Prod.mk.inj h
    exact ⟨⟨hcertUnique, hkeyUnique, hentryUnique⟩, (Outcome.ok.inj hresult).symm, rfl⟩
  · rintro ⟨hadmitted, rfl, rfl⟩
    refine Effect.bind_eq_ok_iff.mpr ⟨_, _, rfl, ?_⟩
    refine Effect.bind_eq_ok_iff.mpr ⟨_, _, rfl, ?_⟩
    refine Effect.bind_eq_ok_iff.mpr
      ⟨(), _, certs.insert_eq_ok_iff.mpr ⟨hadmitted.cert, rfl, rfl⟩, ?_⟩
    refine Effect.bind_eq_ok_iff.mpr
      ⟨(), _, keys.insert_eq_ok_iff.mpr ⟨hadmitted.key, hreferences, rfl⟩, ?_⟩
    refine Effect.bind_eq_ok_iff.mpr ⟨_, _, rfl, ?_⟩
    exact Effect.bind_eq_ok_iff.mpr
      ⟨(), _, auditLog.insert_eq_ok_iff.mpr ⟨hadmitted.entry, rfl, rfl⟩, rfl⟩

variable {crates : Crates} {parsers : DerParsers} {drawn : KeyRandomness} {keyDer master : Bytes}

/-- What an import needs to succeed, and what it leaves then. -/
theorem storeCertAndKey_eq_ok_iff {result : ImportResult} {store : Store} :
    storeCertAndKey host crates parsers drawn certDer keyDer label
        (.unlocked database master) = (.ok result, store) ↔
      ∃ metadata algorithm encrypted,
        Prepared crates parsers drawn certDer keyDer master metadata algorithm encrypted ∧
        Admitted host certDer label metadata algorithm encrypted database ∧
        result = importResult host label metadata algorithm ∧
        store = .unlocked
          (withImport host certDer label metadata algorithm encrypted database) master := by
  rw [storeCertAndKey]
  simp only [Effect.lift_bind_eq_ok_iff, Effect.reads_bind_eq_ok_iff, withConn_eq_ok_iff,
    insertImported_eq_ok_iff]
  constructor
  · rintro ⟨metadata, hmetadata, algorithm, halgorithm, found, hfound, encrypted, hencrypted,
      session, ⟨hadmitted, hresult, rfl⟩, hstore⟩
    obtain rfl : master = found := Outcome.ok.inj hfound
    exact ⟨metadata, algorithm, encrypted, ⟨hmetadata, halgorithm, hencrypted⟩, hadmitted,
      hresult, hstore⟩
  · rintro ⟨metadata, algorithm, encrypted, hprepared, hadmitted, hresult, hstore⟩
    exact ⟨metadata, hprepared.metadata, algorithm, hprepared.algorithm, master, rfl, encrypted,
      hprepared.encrypted, _, ⟨hadmitted, hresult, rfl⟩, hstore⟩

theorem ids_apart (hadmitted : Admitted host certDer label metadata algorithm encrypted database) :
    ∀ cert ∈ database.certs, cert.id ≠ host.newId 0 := by
  have hid := (Table.conflict_eq_none_iff certs).mp hadmitted.cert ("id", (·.id))
    (by simp [certs])
  simpa [certs, importedCert] using hid

theorem getCertById_withImport
    (hadmitted : Admitted host certDer label metadata algorithm encrypted database) :
    getCertById (.unlocked (withImport host certDer label metadata algorithm encrypted database)
      master) (host.newId 0) =
        .ok (importedCert host (host.newId 0) certDer label metadata) := by
  have hnone : (database.certs.find? fun row => row.id = host.newId 0) = none := by
    simpa using ids_apart hadmitted
  rw [getCertById, Store.conn_unlocked, Outcome.ok_bind, withImport, withCertAndKey,
    List.find?_append, hnone]
  simp [importedCert]

/-- The key row of the import is the only one for its certificate. -/
theorem mem_keys_withImport_iff (hsound : keys.Sound database)
    (hadmitted : Admitted host certDer label metadata algorithm encrypted database)
    {row : KeyRow} :
    row ∈ (withImport host certDer label metadata algorithm encrypted database).keys ∧
        row.certId = host.newId 0 ↔
      row = importedKey (host.newId 1) (host.newId 0) algorithm encrypted := by
  constructor
  · rintro ⟨hrow, hcertId⟩
    rcases List.mem_append.mp hrow with hold | hnew
    · have hreferences := hsound.2 row hold
      simp only [keys, List.any_eq_true, decide_eq_true_eq] at hreferences
      obtain ⟨cert, hcert, hid⟩ := hreferences
      exact absurd (hid.trans hcertId) (ids_apart hadmitted cert hcert)
    · exact List.mem_singleton.mp hnew
  · rintro rfl
    exact ⟨List.mem_append_right _ (List.mem_singleton_self _), rfl⟩

theorem getPlaintextKey_withImport (hcrates : Deciphers crates) (hsound : keys.Sound database)
    (hprepared : Prepared crates parsers drawn certDer keyDer master metadata algorithm encrypted)
    (hadmitted : Admitted host certDer label metadata algorithm encrypted database) :
    getPlaintextKey crates (.unlocked
      (withImport host certDer label metadata algorithm encrypted database) master)
        (host.newId 0) = .ok (keyDer, algorithm) := by
  rw [getPlaintextKey_eq_ok_iff]
  refine ⟨importedKey (host.newId 1) (host.newId 0) algorithm encrypted, ?_,
    decryptKey_of_encryptKey hcrates hprepared.encrypted, parseAlgorithm_algorithmName algorithm⟩
  cases hfound : (withImport host certDer label metadata algorithm encrypted database).keys.find?
      fun row => row.certId = host.newId 0 with
  | none =>
      rw [List.find?_eq_none] at hfound
      obtain ⟨hmem, hcertId⟩ := (mem_keys_withImport_iff hsound hadmitted).mpr rfl
      exact absurd (by simpa using hcertId) (hfound _ hmem)
  | some row =>
      have hcertId : row.certId = host.newId 0 := by simpa using List.find?_some hfound
      rw [(mem_keys_withImport_iff hsound hadmitted).mp ⟨List.mem_of_find?_eq_some hfound, hcertId⟩]

end Storing

end TrafficCone.StoredImports
