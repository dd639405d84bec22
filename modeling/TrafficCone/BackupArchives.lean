import Mathlib.Data.Multiset.Bind
import TrafficCone.DatabaseTables
import TrafficCone.HexadecimalText
import TrafficCone.IndependentLoading

namespace TrafficCone.BackupArchives

open TrafficCone.Outcomes
open TrafficCone.StoreModels
open TrafficCone.HexadecimalText
open TrafficCone.IndependentLoading
open TrafficCone.DatabaseTables

/-- A certificate with its key, which stays encrypted under the master passphrase;
binary columns are in hexadecimal. -/
structure BackupCert where
  id : String
  label : String
  certDer : String
  fingerprint : String
  subject : String
  issuer : String
  notBefore : Int
  notAfter : Int
  createdAt : Int
  keyEnc : String
  keySalt : String
  keyNonce : String
  keyAlgorithm : String
  deriving DecidableEq, Repr

structure BackupSshKey where
  id : String
  label : String
  publicKey : String
  algorithm : String
  keyEnc : String
  keySalt : String
  keyNonce : String
  createdAt : Int
  deriving DecidableEq, Repr

structure BackupCaCert where
  id : String
  label : String
  certPem : String
  fingerprint : String
  subject : String
  notAfter : Int
  createdAt : Int
  deriving DecidableEq, Repr

structure BackupApp where
  id : String
  label : String
  exePath : String
  exeHash : String
  registeredAt : Int
  deriving DecidableEq, Repr

structure BackupRoute where
  id : String
  certId : String
  appId : Option String
  matchType : String
  pattern : Option String
  requireBoth : Bool
  priority : Int
  createdAt : Int
  deriving DecidableEq, Repr

structure BackupSshRoute where
  id : String
  sshKeyId : String
  appId : Option String
  hostPattern : Option String
  createdAt : Int
  deriving DecidableEq, Repr

structure BackupPayload where
  version : Nat
  exportedAt : Int
  certs : List BackupCert
  sshKeys : List BackupSshKey
  caCerts : List BackupCaCert
  apps : List BackupApp
  routes : List BackupRoute
  sshRoutes : List BackupSshRoute
  deriving DecidableEq, Repr

inductive AgeEncryptError where
  | wrap (message : String)
  | write (message : String)
  | finish (message : String)
  deriving DecidableEq, Repr

inductive AgeDecryptError where
  | init (message : String)
  | notPassphrase
  | decrypt (message : String)
  | read (message : String)
  deriving DecidableEq, Repr

/-- The libraries a backup file is written and read with: JSON, and age with a
passphrase. -/
structure BackupCodec where
  toVecPretty : BackupPayload → Except String Bytes
  fromSlice : Bytes → Except String BackupPayload
  encrypt : String → Bytes → Except AgeEncryptError Bytes
  decrypt : String → Bytes → Except AgeDecryptError Bytes

/-- The clock and the random ids of one call. -/
structure Host where
  unixNow : Int
  newId : Nat → String

def newId (host : Host) : Effect Session StoreError String := fun session =>
  (.ok (host.newId session.drawn), { session with drawn := session.drawn + 1 })

def withConn {α : Type} (body : Effect Session StoreError α) : Effect Store StoreError α
  | .locked => (.err .locked, .locked)
  | .unlocked database passphrase =>
      let result := body { database := database, drawn := 0 }
      (result.1, .unlocked result.2.database passphrase)

theorem withConn_unlocked {α : Type} {body : Effect Session StoreError α} {database : Database}
    {outcome : Outcome StoreError α} {session : Session}
    (h : body { database := database, drawn := 0 } = (outcome, session)) (master : Bytes) :
    withConn body (.unlocked database master) = (outcome, .unlocked session.database master) := by
  simp [withConn, h]

theorem withConn_eq_ok_iff {α : Type} {body : Effect Session StoreError α} {database : Database}
    {master : Bytes} {value : α} {store : Store} :
    withConn body (.unlocked database master) = (.ok value, store) ↔
      ∃ session, body { database := database, drawn := 0 } = (.ok value, session) ∧
        store = .unlocked session.database master := by
  rcases hbody : body { database := database, drawn := 0 } with ⟨outcome, session⟩
  simp [withConn, hbody, eq_comm]

section Collecting

def backupCert (cert : Cert) (key : KeyRow) : BackupCert :=
  { id := cert.id
    label := cert.label
    certDer := hexEncode cert.certDer
    fingerprint := cert.fingerprint
    subject := cert.subject
    issuer := cert.issuer
    notBefore := cert.notBefore
    notAfter := cert.notAfter
    createdAt := cert.createdAt
    keyEnc := hexEncode key.keyEnc
    keySalt := hexEncode key.keySalt
    keyNonce := hexEncode key.keyNonce
    keyAlgorithm := key.algorithm }

/-- The rows of the inner join of certificates and keys, certificate by certificate. -/
def joinKeys (database : Database) : List BackupCert :=
  database.certs.flatMap fun cert =>
    (database.keys.filter fun key => key.certId = cert.id).map (backupCert cert)

/-- The order in which the join is read. The query asks for none. -/
structure JoinOrder where
  rows : Database → List BackupCert
  perm : ∀ database, (rows database).Perm (joinKeys database)

/-- The rows of the join, key by key. -/
def joinCerts (database : Database) : List BackupCert :=
  database.keys.flatMap fun key =>
    (database.certs.filter fun cert => key.certId = cert.id).map fun cert => backupCert cert key

theorem map_filter_eq_flatMap {α β : Type} (p : α → Prop) [DecidablePred p] (f : α → β)
    (rows : List α) :
    (rows.filter fun row => p row).map f =
      rows.flatMap fun row => if p row then [f row] else [] := by
  induction rows with
  | nil => rfl
  | cons row rest ih =>
      by_cases h : p row <;> simp [h, ih]

theorem joinCerts_perm (database : Database) :
    (joinCerts database).Perm (joinKeys database) := by
  simp only [joinCerts, joinKeys, map_filter_eq_flatMap]
  -- Two nested loops over lists may be exchanged where only the multiset matters.
  apply Multiset.coe_eq_coe.mp
  simp only [← Multiset.coe_bind]
  exact Multiset.bind_bind _ _

/-- There is an index on the ids of certificates and none on the owners of keys, so SQLite
goes through the keys. -/
def keyOrder : JoinOrder where
  rows := joinCerts
  perm := joinCerts_perm

def backupSshKey (row : SshKeyRow) : BackupSshKey :=
  { id := row.id
    label := row.label
    publicKey := row.publicKey
    algorithm := row.algorithm
    keyEnc := hexEncode row.keyEnc
    keySalt := hexEncode row.keySalt
    keyNonce := hexEncode row.keyNonce
    createdAt := row.createdAt }

def backupCaCert (row : CaCert) : BackupCaCert :=
  { id := row.id
    label := row.label
    certPem := row.certPem
    fingerprint := row.fingerprint
    subject := row.subject
    notAfter := row.notAfter
    createdAt := row.createdAt }

def backupApp (row : App) : BackupApp :=
  { id := row.id
    label := row.label
    exePath := row.exePath
    exeHash := row.exeHash
    registeredAt := row.registeredAt }

def backupRoute (row : RouteRow) : BackupRoute :=
  { id := row.id
    certId := row.certId
    appId := row.appId
    matchType := row.matchType
    pattern := row.pattern
    requireBoth := row.requireBoth ≠ 0
    priority := row.priority
    createdAt := row.createdAt }

def backupSshRoute (row : SshRoute) : BackupSshRoute :=
  { id := row.id
    sshKeyId := row.sshKeyId
    appId := row.appId
    hostPattern := row.hostPattern
    createdAt := row.createdAt }

def payloadOf (order : JoinOrder) (database : Database) (exportedAt : Int) : BackupPayload :=
  { version := 1
    exportedAt := exportedAt
    certs := order.rows database
    sshKeys := database.sshKeys.map backupSshKey
    caCerts := database.caCerts.map backupCaCert
    apps := database.apps.map backupApp
    routes := database.routes.map backupRoute
    sshRoutes := database.sshRoutes.map backupSshRoute }

def collectBackupPayload (order : JoinOrder) (host : Host) (store : Store) :
    Outcome StoreError BackupPayload := do
  let database ← store.conn
  pure (payloadOf order database host.unixNow)

def ageEncrypt (codec : BackupCodec) (plaintext : Bytes) (passphrase : String) :
    Outcome StoreError Bytes :=
  (Outcome.ofExcept (codec.encrypt passphrase plaintext)).mapErr fun
    | .wrap message => .crypto ("age encrypt error: " ++ message)
    | .write message => .crypto ("age write error: " ++ message)
    | .finish message => .crypto ("age finish error: " ++ message)

def createdEntry (host : Host) (id : String) : AuditEntry :=
  { id := id
    eventType := "backup_created"
    certId := none
    sshKeyId := none
    appId := none
    detail := some "Full backup created"
    occurredAt := host.unixNow }

def recordCreated (host : Host) : Effect Session StoreError Unit := do
  let id ← newId host
  auditLog.insert (createdEntry host id)

def createBackup (codec : BackupCodec) (order : JoinOrder) (host : Host) (backupPassword : String) :
    Effect Store StoreError Bytes := do
  let payload ← Effect.reads (collectBackupPayload order host)
  let json ← Effect.lift ((Outcome.ofExcept (codec.toVecPretty payload)).mapErr fun error =>
    StoreError.crypto ("failed to serialise backup: " ++ error))
  let encrypted ← Effect.lift (ageEncrypt codec json backupPassword)
  withConn (recordCreated host)
  pure encrypted

end Collecting

section Restoring

def ageDecrypt (codec : BackupCodec) (ciphertext : Bytes) (passphrase : String) :
    Outcome StoreError Bytes :=
  (Outcome.ofExcept (codec.decrypt passphrase ciphertext)).mapErr fun
    | .init message => .crypto ("age decrypt init error: " ++ message)
    | .notPassphrase => .crypto "backup was not encrypted with a passphrase"
    | .decrypt message =>
        .crypto ("backup decryption failed — wrong passphrase?: " ++ message)
    | .read message => .crypto ("age read error: " ++ message)

/-- Hexadecimal text that is not valid counts as empty. -/
def decodeOrEmpty (text : String) : Bytes :=
  match hexDecode text with
  | .ok bytes => bytes
  | .error _ => []

/-- Insert unless the entry is there already, and count what has been inserted. -/
def unlessExists (existing : Database → Bool) (insert : Effect Session StoreError Unit) :
    Effect Session StoreError Nat := fun session =>
  if existing session.database then (.ok 0, session)
  else (insert >>= fun _ => pure 1 : Effect Session StoreError Nat) session

theorem preserves_unlessExists {invariant : Session → Prop} (existing : Database → Bool)
    {insert : Effect Session StoreError Unit} (hinsert : Effect.Preserves insert invariant) :
    Effect.Preserves (unlessExists existing insert) invariant := by
  intro session counted session' hsession hcall
  rw [unlessExists] at hcall
  split at hcall
  · obtain ⟨-, rfl⟩ := Prod.mk.inj hcall
    exact hsession
  · obtain ⟨_, middle, hinserted, hcounted⟩ := Effect.bind_eq_ok_iff.mp hcall
    obtain ⟨-, rfl⟩ := Prod.mk.inj hcounted
    exact hinsert session _ middle hsession hinserted

def caCertRow (entry : BackupCaCert) : CaCert :=
  { id := entry.id
    label := entry.label
    certPem := entry.certPem
    fingerprint := entry.fingerprint
    subject := entry.subject
    notAfter := entry.notAfter
    systemFile := none
    createdAt := entry.createdAt }

def restoreCaCert (entry : BackupCaCert) : Effect Session StoreError Nat :=
  unlessExists (fun database => database.caCerts.any fun row => row.fingerprint = entry.fingerprint)
    (caCerts.insert (caCertRow entry))

def certRow (entry : BackupCert) (certDer : Bytes) : Cert :=
  { id := entry.id
    label := entry.label
    certDer := certDer
    fingerprint := entry.fingerprint
    subject := entry.subject
    issuer := entry.issuer
    notBefore := entry.notBefore
    notAfter := entry.notAfter
    createdAt := entry.createdAt }

def keyRow (entry : BackupCert) (id : String) : KeyRow :=
  { id := id
    certId := entry.id
    algorithm := entry.keyAlgorithm
    keyEnc := decodeOrEmpty entry.keyEnc
    keySalt := decodeOrEmpty entry.keySalt
    keyNonce := decodeOrEmpty entry.keyNonce }

def insertCertAndKey (host : Host) (entry : BackupCert) : Effect Session StoreError Unit := do
  let certDer ← Effect.lift ((Outcome.ofExcept (hexDecode entry.certDer)).mapErr fun error =>
    StoreError.importFailure ("invalid cert data in backup: " ++ error.toText))
  certs.insert (certRow entry certDer)
  -- A backup has no key ids.
  let id ← newId host
  keys.insert (keyRow entry id)

def restoreCert (host : Host) (entry : BackupCert) : Effect Session StoreError Nat :=
  unlessExists (fun database => database.certs.any fun row => row.fingerprint = entry.fingerprint)
    (insertCertAndKey host entry)

def sshKeyRow (entry : BackupSshKey) : SshKeyRow :=
  { id := entry.id
    label := entry.label
    publicKey := entry.publicKey
    algorithm := entry.algorithm
    keyEnc := decodeOrEmpty entry.keyEnc
    keySalt := decodeOrEmpty entry.keySalt
    keyNonce := decodeOrEmpty entry.keyNonce
    createdAt := entry.createdAt }

def restoreSshKey (entry : BackupSshKey) : Effect Session StoreError Nat :=
  unlessExists (fun database => database.sshKeys.any fun row => row.id = entry.id)
    (sshKeys.insert (sshKeyRow entry))

def appRow (entry : BackupApp) : App :=
  { id := entry.id
    label := entry.label
    exePath := entry.exePath
    exeHash := entry.exeHash
    registeredAt := entry.registeredAt }

def restoreApp (entry : BackupApp) : Effect Session StoreError Nat :=
  unlessExists (fun database => database.apps.any fun row => row.exePath = entry.exePath)
    (apps.insert (appRow entry))

def routeRow (entry : BackupRoute) : RouteRow :=
  { id := entry.id
    certId := entry.certId
    appId := entry.appId
    matchType := entry.matchType
    pattern := entry.pattern
    requireBoth := if entry.requireBoth then 1 else 0
    priority := entry.priority
    createdAt := entry.createdAt }

def restoreRoute (entry : BackupRoute) : Effect Session StoreError Nat := do
  routes.insertOrIgnore (routeRow entry)
  -- Counted even if the row was ignored.
  pure 1

def sshRouteRow (entry : BackupSshRoute) : SshRoute :=
  { id := entry.id
    sshKeyId := entry.sshKeyId
    appId := entry.appId
    hostPattern := entry.hostPattern
    createdAt := entry.createdAt }

def restoreSshRoute (entry : BackupSshRoute) : Effect Session StoreError Nat := do
  sshRoutes.insertOrIgnore (sshRouteRow entry)
  pure 1

structure RestoreResult where
  certs : Nat
  sshKeys : Nat
  caCerts : Nat
  apps : Nat
  routes : Nat
  sshRoutes : Nat
  deriving DecidableEq, Repr

def restoredEntry (host : Host) (result : RestoreResult) (id : String) : AuditEntry :=
  { id := id
    eventType := "backup_restored"
    certId := none
    sshKeyId := none
    appId := none
    detail := some ("Restored: " ++ toString result.certs ++ " certs, " ++
      toString result.sshKeys ++ " SSH keys, " ++ toString result.apps ++ " apps")
    occurredAt := host.unixNow }

def recordRestored (host : Host) (result : RestoreResult) :
    Effect Session StoreError RestoreResult := do
  let id ← newId host
  auditLog.insert (restoredEntry host result id)
  pure result

def restorePayload (host : Host) (payload : BackupPayload) :
    Effect Session StoreError RestoreResult := do
  let caCertCount ← loadAll restoreCaCert payload.caCerts
  let certCount ← loadAll (restoreCert host) payload.certs
  let sshKeyCount ← loadAll restoreSshKey payload.sshKeys
  let appCount ← loadAll restoreApp payload.apps
  let routeCount ← loadAll restoreRoute payload.routes
  let sshRouteCount ← loadAll restoreSshRoute payload.sshRoutes
  let result : RestoreResult :=
    { certs := certCount
      sshKeys := sshKeyCount
      caCerts := caCertCount
      apps := appCount
      routes := routeCount
      sshRoutes := sshRouteCount }
  recordRestored host result

def restoreBackup (codec : BackupCodec) (host : Host) (backupData : Bytes)
    (backupPassword : String) : Effect Store StoreError RestoreResult := do
  let json ← Effect.lift (ageDecrypt codec backupData backupPassword)
  let payload ← Effect.lift ((Outcome.ofExcept (codec.fromSlice json)).mapErr fun error =>
    StoreError.importFailure ("failed to parse backup: " ++ error))
  withConn (restorePayload host payload)

theorem of_restoreBackup {codec : BackupCodec} {host : Host} {backupData : Bytes}
    {backupPassword : String} {database : Database} {master : Bytes} {result : RestoreResult}
    {store : Store}
    (h : restoreBackup codec host backupData backupPassword (.unlocked database master) =
      (.ok result, store)) :
    ∃ payload session,
      restorePayload host payload { database := database, drawn := 0 } = (.ok result, session) ∧
        store = .unlocked session.database master := by
  rw [restoreBackup] at h
  obtain ⟨json, -, h⟩ := Effect.lift_bind_eq_ok_iff.mp h
  obtain ⟨payload, -, h⟩ := Effect.lift_bind_eq_ok_iff.mp h
  obtain ⟨session, hsession, hstore⟩ := withConn_eq_ok_iff.mp h
  exact ⟨payload, session, hsession, hstore⟩

end Restoring

end TrafficCone.BackupArchives
