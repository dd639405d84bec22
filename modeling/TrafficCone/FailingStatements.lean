import TrafficCone.StatementFailures
import TrafficCone.StoreCommands

namespace TrafficCone.FailingStatements

open TrafficCone.Outcomes
open TrafficCone.StoreModels
open TrafficCone.HexadecimalText
open TrafficCone.LinkedCrates
open TrafficCone.IndependentLoading
open TrafficCone.StatementFailures
open TrafficCone.DatabaseTables
open TrafficCone.BackupArchives
open TrafficCone.CertificateImport
open TrafficCone.StoreCommands

/-- Which statements of a call SQLite fails (the database is busy, the disk is full), with
which message. -/
abbrev Failures : Type := Nat → Option String

variable (failures : Failures)

def statement {α : Type} (call : Effect Session StoreError α) :
    Effect (Attempt Session) StoreError α :=
  issue (fun number => (failures number).map StoreError.database) call

def withConnUnder {α : Type} (body : Effect (Attempt Session) StoreError α) :
    Effect Store StoreError α
  | .locked => (.err .locked, .locked)
  | .unlocked database passphrase =>
      let result := body { state := { database := database, drawn := 0 }, issued := 0 }
      (result.1, .unlocked result.2.state.database passphrase)

section Restoring

/-- `SELECT COUNT(*)`; an entry counts as absent if the query fails. -/
def existsUnder (existing : Database → Bool) : Effect (Attempt Session) StoreError Bool :=
  fun attempt =>
    (.ok ((failures attempt.issued).isNone && existing attempt.state.database),
      { attempt with issued := attempt.issued + 1 })

def unlessExistsUnder (existing : Database → Bool)
    (insert : Effect (Attempt Session) StoreError Unit) :
    Effect (Attempt Session) StoreError Nat := do
  let found ← existsUnder failures existing
  if found then pure 0
  else do
    insert
    pure 1

def restoreCaCertUnder (entry : BackupCaCert) : Effect (Attempt Session) StoreError Nat :=
  unlessExistsUnder failures
    (fun database => database.caCerts.any fun row => row.fingerprint = entry.fingerprint)
    (statement failures (caCerts.insert (caCertRow entry)))

def insertCertAndKeyUnder (host : Host) (entry : BackupCert) :
    Effect (Attempt Session) StoreError Unit := do
  let certDer ← Effect.lift ((Outcome.ofExcept (hexDecode entry.certDer)).mapErr fun error =>
    StoreError.importFailure ("invalid cert data in backup: " ++ error.toText))
  statement failures (certs.insert (certRow entry certDer))
  let id ← compute (newId host)
  statement failures (keys.insert (keyRow entry id))

def restoreCertUnder (host : Host) (entry : BackupCert) :
    Effect (Attempt Session) StoreError Nat :=
  unlessExistsUnder failures
    (fun database => database.certs.any fun row => row.fingerprint = entry.fingerprint)
    (insertCertAndKeyUnder failures host entry)

def restoreSshKeyUnder (entry : BackupSshKey) : Effect (Attempt Session) StoreError Nat :=
  unlessExistsUnder failures (fun database => database.sshKeys.any fun row => row.id = entry.id)
    (statement failures (sshKeys.insert (sshKeyRow entry)))

def restoreAppUnder (entry : BackupApp) : Effect (Attempt Session) StoreError Nat :=
  unlessExistsUnder failures
    (fun database => database.apps.any fun row => row.exePath = entry.exePath)
    (statement failures (apps.insert (appRow entry)))

def restoreRouteUnder (entry : BackupRoute) : Effect (Attempt Session) StoreError Nat := do
  statement failures (routes.insertOrIgnore (routeRow entry))
  pure 1

def restoreSshRouteUnder (entry : BackupSshRoute) : Effect (Attempt Session) StoreError Nat := do
  statement failures (sshRoutes.insertOrIgnore (sshRouteRow entry))
  pure 1

def recordRestoredUnder (host : Host) (result : RestoreResult) :
    Effect (Attempt Session) StoreError RestoreResult := do
  let id ← compute (newId host)
  statement failures (auditLog.insert (restoredEntry host result id))
  pure result

def restorePayloadUnder (host : Host) (payload : BackupPayload) :
    Effect (Attempt Session) StoreError RestoreResult := do
  let caCertCount ← loadAll (restoreCaCertUnder failures) payload.caCerts
  let certCount ← loadAll (restoreCertUnder failures host) payload.certs
  let sshKeyCount ← loadAll (restoreSshKeyUnder failures) payload.sshKeys
  let appCount ← loadAll (restoreAppUnder failures) payload.apps
  let routeCount ← loadAll (restoreRouteUnder failures) payload.routes
  let sshRouteCount ← loadAll (restoreSshRouteUnder failures) payload.sshRoutes
  let result : RestoreResult :=
    { certs := certCount
      sshKeys := sshKeyCount
      caCerts := caCertCount
      apps := appCount
      routes := routeCount
      sshRoutes := sshRouteCount }
  recordRestoredUnder failures host result

def restoreBackupUnder (codec : BackupCodec) (host : Host) (backupData : Bytes)
    (backupPassword : String) : Effect Store StoreError RestoreResult := do
  let json ← Effect.lift (ageDecrypt codec backupData backupPassword)
  let payload ← Effect.lift ((Outcome.ofExcept (codec.fromSlice json)).mapErr fun error =>
    StoreError.importFailure ("failed to parse backup: " ++ error))
  withConnUnder (restorePayloadUnder failures host payload)

end Restoring

section Importing

def insertImportedUnder (host : Host) (certDer : Bytes) (label : String) (metadata : CertMeta)
    (algorithm : KeyAlgorithm) (encrypted : Bytes × Bytes × Bytes) :
    Effect (Attempt Session) StoreError ImportResult := do
  let certId ← compute (newId host)
  let keyId ← compute (newId host)
  statement failures (certs.insert (importedCert host certId certDer label metadata))
  statement failures (keys.insert (importedKey keyId certId algorithm encrypted))
  let auditId ← compute (newId host)
  statement failures (auditLog.insert (importedEntry host auditId certId label))
  pure
    { certId := certId
      summary := summaryOf label algorithm metadata
      caChain := [] }

def storeCertAndKeyUnder (crates : Crates) (parsers : DerParsers) (host : Host)
    (drawn : KeyRandomness) (certDer keyDer : Bytes) (label : String) :
    Effect Store StoreError ImportResult := do
  let metadata ← Effect.lift (parseCertMetadata crates parsers certDer)
  let algorithm ← Effect.lift (detectKeyAlgorithm parsers keyDer)
  let master ← Effect.reads Store.passphrase
  let encrypted ← Effect.lift (encryptKey crates drawn.salt drawn.nonce keyDer master)
  withConnUnder (insertImportedUnder failures host certDer label metadata algorithm encrypted)

/-- Any error of the query counts as no certificate. -/
def selectCertUnder (label : String) : Effect (Attempt Session) StoreError Cert :=
  Effect.mapErr (fun _ => StoreError.notFound ("no certificate with label '" ++ label ++ "'"))
    (statement failures (Effect.reads fun session =>
      Outcome.ofOption (.database "Query returned no rows")
        (session.database.certs.find? fun row => row.label = label)))

def deleteCertUnder (host : Host) (label : String) : Effect Store StoreError Unit :=
  withConnUnder do
    let cert ← selectCertUnder failures label
    statement failures (deleteFromCerts cert.id)
    let id ← compute (newId host)
    statement failures (auditLog.insert (deletedEntry host id cert.id label))

end Importing

section Statements

variable {failures} {α ρ : Type} {call : Effect Session StoreError α} {attempt : Attempt Session}

theorem statement_of_none (h : failures attempt.issued = none) :
    statement failures call attempt =
      ((call attempt.state).1,
        { state := (call attempt.state).2, issued := attempt.issued + 1 }) := by
  rw [statement, issue, h]
  rfl

theorem statement_of_some {message : String} (h : failures attempt.issued = some message) :
    statement failures call attempt =
      (.err (.database message), { attempt with issued := attempt.issued + 1 }) := by
  rw [statement, issue, h]
  rfl

theorem compute_newId_bind {host : Host} {next : String → Effect (Attempt Session) StoreError α}
    (database : Database) (drawn issued : Nat) :
    (compute (newId host) >>= next)
        { state := { database := database, drawn := drawn }, issued := issued } =
      next (host.newId drawn)
        { state := { database := database, drawn := drawn + 1 }, issued := issued } := rfl

/-- An insertion is refused by SQLite or by the constraints of its table. -/
def InsertFails (failures : Failures) (table : Table ρ) (row : ρ) (attempt : Attempt Session) :
    Prop :=
  failures attempt.issued ≠ none ∨
    ¬ (table.conflict attempt.state.database row = none ∧
      table.references attempt.state.database row = true)

theorem statement_insert_of_fails {table : Table ρ} {row : ρ}
    (h : InsertFails failures table row attempt) :
    ∃ error, statement failures (table.insert row) attempt =
      (.err error, { attempt with issued := attempt.issued + 1 }) := by
  cases hfailure : failures attempt.issued with
  | some message => exact ⟨_, statement_of_some hfailure⟩
  | none =>
      have hrefused := h.resolve_left fun hnot => hnot hfailure
      obtain ⟨error, hinsert⟩ := table.insert_of_refused hrefused
      refine ⟨error, ?_⟩
      rw [statement_of_none hfailure, hinsert]

theorem statement_insert_of_not_fails {table : Table ρ} {row : ρ}
    (h : ¬ InsertFails failures table row attempt) :
    statement failures (table.insert row) attempt =
      (.ok (), { state := table.append row attempt.state, issued := attempt.issued + 1 }) := by
  rw [InsertFails, not_or, not_not, not_not] at h
  rw [statement_of_none h.1, table.insert_of_admitted h.2.1 h.2.2]

theorem selectCertUnder_of_some {label message : String}
    (h : failures attempt.issued = some message) :
    selectCertUnder failures label attempt =
      (.err (.notFound ("no certificate with label '" ++ label ++ "'")),
        { attempt with issued := attempt.issued + 1 }) := by
  rw [selectCertUnder, Effect.mapErr, statement_of_some h]
  rfl

theorem selectCertUnder_of_none {label : String} {database : Database} {drawn issued : Nat}
    (h : failures issued = none) :
    selectCertUnder failures label
        { state := { database := database, drawn := drawn }, issued := issued } =
      (Outcome.ofOption (.notFound ("no certificate with label '" ++ label ++ "'"))
          (database.certs.find? fun row => row.label = label),
        { state := { database := database, drawn := drawn }, issued := issued + 1 }) := by
  have hissued : failures (Attempt.issued
      { state := ({ database := database, drawn := drawn } : Session), issued := issued }) =
        none := h
  rw [selectCertUnder, Effect.mapErr, statement_of_none hissued]
  simp only [Effect.reads]
  cases database.certs.find? fun row => row.label = label <;> rfl

end Statements

section Agreement

variable {failures}

theorem agrees_statement {α : Type} (call : Effect Session StoreError α) :
    Agrees (statement (fun _ => none) call) call :=
  agrees_issue call

theorem agrees_unlessExists (existing : Database → Bool)
    {attempted : Effect (Attempt Session) StoreError Unit} {insert : Effect Session StoreError Unit}
    (h : Agrees attempted insert) :
    Agrees (unlessExistsUnder (fun _ => none) existing attempted)
      (unlessExists existing insert) := by
  intro attempt
  have hfound : existsUnder (fun _ => none) existing attempt =
      (.ok (existing attempt.state.database), { attempt with issued := attempt.issued + 1 }) := rfl
  rw [unlessExistsUnder, unlessExists, Effect.bind_of_ok hfound]
  cases existing attempt.state.database with
  | true => exact ⟨rfl, rfl⟩
  | false => exact h.bind (fun _ => agrees_pure 1) { attempt with issued := attempt.issued + 1 }

theorem agrees_insertCertAndKey (host : Host) (entry : BackupCert) :
    Agrees (insertCertAndKeyUnder (fun _ => none) host entry) (insertCertAndKey host entry) := by
  apply Agrees.bind
  · exact fun _ => ⟨rfl, rfl⟩
  · intro certDer
    apply (agrees_statement _).bind
    intro _
    exact (agrees_compute _).bind fun id => agrees_statement _

theorem agrees_restorePayload (host : Host) (payload : BackupPayload) :
    Agrees (restorePayloadUnder (fun _ => none) host payload) (restorePayload host payload) := by
  apply (agrees_loadAll (fun entry => agrees_unlessExists _ (agrees_statement _)) _).bind
  intro caCertCount
  apply (agrees_loadAll
    (fun entry => agrees_unlessExists _ (agrees_insertCertAndKey host entry)) _).bind
  intro certCount
  apply (agrees_loadAll (fun entry => agrees_unlessExists _ (agrees_statement _)) _).bind
  intro sshKeyCount
  apply (agrees_loadAll (fun entry => agrees_unlessExists _ (agrees_statement _)) _).bind
  intro appCount
  apply (agrees_loadAll (fun entry => (agrees_statement _).bind fun _ => agrees_pure 1) _).bind
  intro routeCount
  apply (agrees_loadAll (fun entry => (agrees_statement _).bind fun _ => agrees_pure 1) _).bind
  intro sshRouteCount
  apply (agrees_compute _).bind
  intro id
  exact (agrees_statement _).bind fun _ => agrees_pure _

theorem withConnUnder_of_agrees {α : Type} {attempted : Effect (Attempt Session) StoreError α}
    {body : Effect Session StoreError α} (h : Agrees attempted body) :
    withConnUnder attempted = withConn body := by
  funext store
  cases store with
  | locked => rfl
  | unlocked database passphrase =>
      obtain ⟨houtcome, hstate⟩ :=
        h { state := { database := database, drawn := 0 }, issued := 0 }
      rw [withConnUnder, withConn, houtcome, hstate]

/-- When no statement fails, a restore is the one of the model without failures. -/
theorem restoreBackupUnder_none (codec : BackupCodec) (host : Host) (backupData : Bytes)
    (backupPassword : String) :
    restoreBackupUnder (fun _ => none) codec host backupData backupPassword =
      restoreBackup codec host backupData backupPassword := by
  rw [restoreBackupUnder, restoreBackup]
  simp only [withConnUnder_of_agrees (agrees_restorePayload host _)]

theorem storeCertAndKeyUnder_none (crates : Crates) (parsers : DerParsers) (host : Host)
    (drawn : KeyRandomness) (certDer keyDer : Bytes) (label : String) :
    storeCertAndKeyUnder (fun _ => none) crates parsers host drawn certDer keyDer label =
      storeCertAndKey host crates parsers drawn certDer keyDer label := by
  have hinsert : ∀ metadata algorithm encrypted,
      Agrees (insertImportedUnder (fun _ => none) host certDer label metadata algorithm encrypted)
        (insertImported host certDer label metadata algorithm encrypted) := by
    intro metadata algorithm encrypted
    apply (agrees_compute _).bind
    intro certId
    apply (agrees_compute _).bind
    intro keyId
    apply (agrees_statement _).bind
    intro _
    apply (agrees_statement _).bind
    intro _
    apply (agrees_compute _).bind
    intro auditId
    exact (agrees_statement _).bind fun _ => agrees_pure _
  rw [storeCertAndKeyUnder, storeCertAndKey]
  simp only [withConnUnder_of_agrees (hinsert _ _ _)]

theorem deleteCertUnder_none (host : Host) (label : String) :
    deleteCertUnder (fun _ => none) host label = deleteCert host label := by
  funext store
  cases store with
  | locked => rfl
  | unlocked database passphrase =>
      have hselected := @selectCertUnder_of_none (fun _ => none) label database 0 0 rfl
      have hget : Effect.reads (fun store => getCertByLabel store label)
          (.unlocked database passphrase) =
            (Outcome.ofOption (.notFound ("no certificate with label '" ++ label ++ "'"))
              (database.certs.find? fun row => row.label = label),
                .unlocked database passphrase) := rfl
      rw [deleteCertUnder, deleteCert, withConnUnder]
      cases hfound : database.certs.find? fun row => row.label = label with
      | none =>
          rw [hfound, Outcome.ofOption_none] at hselected hget
          rw [Effect.bind_of_err hselected, Effect.bind_of_err hget]
      | some cert =>
          rw [hfound, Outcome.ofOption_some] at hselected hget
          rw [Effect.bind_of_ok hselected, Effect.bind_of_ok hget]
          rfl

end Agreement

end TrafficCone.FailingStatements
