import TrafficCone.PfxTransfers
import TrafficCone.SuccessRecords

namespace TrafficCone.AuditTrail

open TrafficCone.Outcomes
open TrafficCone.StoreModels
open TrafficCone.LinkedCrates
open TrafficCone.StoreListing
open TrafficCone.TransducerRuns
open TrafficCone.IndependentLoading
open TrafficCone.DatabaseTables
open TrafficCone.BackupArchives
open TrafficCone.IntegrityChecks
open TrafficCone.CertificateImport
open TrafficCone.StoreCommands
open TrafficCone.FileImports
open TrafficCone.PfxTransfers
open TrafficCone.SuccessRecords

def storeLog : Store → List AuditEntry
  | .locked => []
  | .unlocked database _ => database.auditLog

/-- A store is watched for staying unlocked under its passphrase. -/
def storeWatch (master : Bytes) : Watch Store AuditEntry where
  log := storeLog
  sound store := ∃ database, store = .unlocked database master

def sessionWatch : Watch Session AuditEntry where
  log session := session.database.auditLog
  sound _ := True

/-- An entry without the id that has been drawn for it. -/
def unnumbered (entry : AuditEntry) : AuditEntry := { entry with id := "" }

section Statements

variable {α : Type} {master : Bytes}

theorem records_withConn {entries : α → List AuditEntry} {body : Effect Session StoreError α}
    (h : Records sessionWatch unnumbered (fun _ => entries) body) :
    Records (storeWatch master) unnumbered (fun _ => entries) (withConn body) where
  returned store value after hcall := by
    cases store with
    | locked => cases hcall
    | unlocked database passphrase =>
        obtain ⟨session, hsession, rfl⟩ := withConn_eq_ok_iff.mp hcall
        exact h.returned _ value session hsession
  failed store hfailed := by
    cases store with
    | locked => rfl
    | unlocked database passphrase =>
        exact h.failed { database := database, drawn := 0 } hfailed
  sound store hstore := by
    obtain ⟨database, rfl⟩ := hstore
    exact ⟨_, rfl⟩

theorem silent_newId (host : Host) : Silent sessionWatch (newId host) := fun _ => ⟨rfl, id⟩

/-- The table is not that of the log. -/
def BesideLog {ρ : Type} (table : Table ρ) : Prop :=
  ∀ database found, (table.withRows database found).auditLog = database.auditLog

theorem silent_insert {ρ : Type} {table : Table ρ} (hbeside : BesideLog table) (row : ρ) :
    Silent sessionWatch (table.insert row) := by
  intro session
  refine ⟨?_, id⟩
  simp only [sessionWatch, Table.insert_snd_database]
  split
  · exact hbeside _ _
  · rfl

theorem silent_insertOrIgnore {ρ : Type} {table : Table ρ} (hbeside : BesideLog table)
    (row : ρ) : Silent sessionWatch (table.insertOrIgnore row) := by
  intro session
  refine ⟨?_, id⟩
  simp only [sessionWatch, Table.insertOrIgnore_snd_database]
  split
  · exact hbeside _ _
  · rfl

theorem silent_unlessExists (existing : Database → Bool) {insert : Effect Session StoreError Unit}
    (h : Silent sessionWatch insert) : Silent sessionWatch (unlessExists existing insert) := by
  intro session
  rw [unlessExists]
  split
  · exact ⟨rfl, id⟩
  · exact (h.bind fun _ => silent_pure 1) session

theorem records_insertAudit (entry : AuditEntry) :
    Records sessionWatch unnumbered (fun _ _ => [unnumbered entry]) (auditLog.insert entry) where
  returned session value after hcall := by
    obtain ⟨-, -, rfl⟩ := auditLog.insert_eq_ok_iff.mp hcall
    exact ⟨[entry], rfl, rfl⟩
  failed session hfailed := by
    simp only [sessionWatch, Table.insert_snd_database]
    split
    · rename_i h
      rw [auditLog.insert_of_admitted h.1 h.2] at hfailed
      exact absurd rfl (hfailed ())
    · rfl
  sound _ _ := trivial

/-- The entry is the last thing that is written. -/
theorem records_numbered (host : Host) {entry : String → AuditEntry} {shown : AuditEntry}
    (hshown : ∀ id, unnumbered (entry id) = shown) :
    Records sessionWatch unnumbered (fun _ _ => [shown])
      (newId host >>= fun id => auditLog.insert (entry id)) := by
  apply (silent_newId host).bind_records
  intro id
  rw [← hshown id]
  exact records_insertAudit (entry id)

end Statements

section Imports

variable {host : Host} {crates : Crates} {parsers : DerParsers} {drawn : KeyRandomness}
  {readers : FileReaders} {files : Files} {label : String} {master : Bytes}

def importRecord (host : Host) (label : String) (result : ImportResult) : List AuditEntry :=
  [importedEntry host "" result.certId label]

theorem records_insertImported (certDer : Bytes) (metadata : CertMeta) (algorithm : KeyAlgorithm)
    (encrypted : Bytes × Bytes × Bytes) :
    Records sessionWatch unnumbered (fun _ => importRecord host label)
      (insertImported host certDer label metadata algorithm encrypted) := by
  rw [insertImported]
  apply (silent_newId host).bind_records
  intro certId
  apply (silent_newId host).bind_records
  intro keyId
  apply (silent_insert (fun _ _ => rfl) _).bind_records
  intro _
  apply (silent_insert (fun _ _ => rfl) _).bind_records
  intro _
  apply (silent_newId host).bind_records
  intro auditId
  exact (records_insertAudit (importedEntry host auditId certId label)).andPure fun _ _ => rfl

theorem records_storeCertAndKey (certDer keyDer : Bytes) :
    Records (storeWatch master) unnumbered (fun _ => importRecord host label)
      (storeCertAndKey host crates parsers drawn certDer keyDer label) := by
  rw [storeCertAndKey]
  apply (silent_lift _).bind_records
  intro metadata
  apply (silent_lift _).bind_records
  intro algorithm
  apply (silent_reads _).bind_records
  intro master
  apply (silent_lift _).bind_records
  intro encrypted
  exact records_withConn (records_insertImported certDer metadata algorithm encrypted)

theorem records_importPkcs12 (path passphrase : String) :
    Records (storeWatch master) unnumbered (fun _ => importRecord host label)
      (importPkcs12 host crates parsers drawn readers files path passphrase label) := by
  rw [importPkcs12]
  apply (silent_lift _).bind_records
  intro fileBytes
  apply (silent_lift _).bind_records
  intro found
  apply (silent_lift _).bind_records
  intro chain
  rcases chain with ⟨key, _ | ⟨certDer, caChain⟩⟩
  · exact records_lift_err _
  · exact (records_storeCertAndKey certDer key).andPure fun _ _ => rfl

theorem records_importPem (path passphrase : String) (keyPath : Option String) :
    Records (storeWatch master) unnumbered (fun _ => importRecord host label)
      (importPem host crates parsers drawn readers files path passphrase label keyPath) := by
  rw [importPem.eq_def]
  apply (silent_lift _).bind_records
  intro pemData
  cases hasCert pemData with
  | true =>
      cases hasKey pemData with
      | true =>
          apply (silent_lift _).bind_records
          intro blocks
          apply (silent_lift _).bind_records
          intro certDer
          apply (silent_lift _).bind_records
          exact records_storeCertAndKey certDer
      | false =>
          apply (silent_lift _).bind_records
          intro keyData
          apply (silent_lift _).bind_records
          intro certBlock
          apply (silent_lift _).bind_records
          intro keyBlock
          exact records_storeCertAndKey certBlock.contents keyBlock.contents
  | false => cases hasKey pemData <;> exact records_lift_err _

theorem records_importDer (path : String) (keyPath : Option String) :
    Records (storeWatch master) unnumbered (fun _ => importRecord host label)
      (importDer host crates parsers drawn readers files path label keyPath) := by
  rw [importDer.eq_def]
  apply (silent_lift _).bind_records
  intro certDer
  apply (silent_lift _).bind_records
  intro _
  cases keyPath with
  | none => exact records_lift_err _
  | some keyPath =>
      apply (silent_lift _).bind_records
      intro keyPem
      apply (silent_lift _).bind_records
      intro block
      exact records_storeCertAndKey certDer block.contents

theorem records_importFile (path passphrase : String) (keyPath : Option String) :
    Records (storeWatch master) unnumbered (fun _ => importRecord host label)
      (importFile host crates parsers drawn readers files path passphrase label keyPath) := by
  rw [importFile]
  apply (silent_lift _).bind_records
  intro format
  cases format with
  | pkcs12 => exact records_importPkcs12 path passphrase
  | pem => exact records_importPem path passphrase keyPath
  | der => exact records_importDer path keyPath

end Imports

section Calls

/-- The calls that write to the store. A command may have more to do after its call:
`cone backup` then writes the archive to a file. -/
inductive StoreCall where
  | importFile (drawn : KeyRandomness) (files : Files) (path passphrase label : String)
      (keyPath : Option String)
  | deleteCert (label : String)
  | exportPfx (certId exportPassword : String)
  | createBackup (backupPassword : String)
  | restoreBackup (backupData : Bytes) (backupPassword : String)
  | appAdd (files : Files) (label exe : String)
  | routeAdd (request : RouteRequest)
  | routeRemove (id : String)

inductive Answer where
  | imported (certId : String)
  | restored (result : RestoreResult)
  | done
  deriving DecidableEq, Repr

variable (crates : Crates) (parsers : DerParsers) (readers : FileReaders) (writer : PfxWriter)
  (codec : BackupCodec) (order : JoinOrder)

def perform (call : Host × StoreCall) : Effect Store String Answer :=
  match call.2 with
  | .importFile drawn files path passphrase label keyPath => do
      let result ← Effect.mapErr StoreError.toText
        (importFile call.1 crates parsers drawn readers files path passphrase label keyPath)
      pure (.imported result.certId)
  | .deleteCert label => do
      let _ ← Effect.mapErr StoreError.toText (deleteCert call.1 label)
      pure .done
  | .exportPfx certId exportPassword => do
      let _ ← Effect.mapErr StoreError.toText
        (exportPfx crates writer call.1 certId exportPassword)
      pure .done
  | .createBackup backupPassword => do
      let _ ← Effect.mapErr StoreError.toText (createBackup codec order call.1 backupPassword)
      pure .done
  | .restoreBackup backupData backupPassword => do
      let result ← Effect.mapErr StoreError.toText
        (restoreBackup codec call.1 backupData backupPassword)
      pure (.restored result)
  | .appAdd files label exe => do
      let _ ← Effect.mapErr CommandError.message (appAdd crates files call.1 label exe)
      pure .done
  | .routeAdd request => do
      let _ ← Effect.mapErr CommandError.message (routeAdd call.1 request)
      pure .done
  | .routeRemove id => do
      let _ ← Effect.mapErr CommandError.message (routeRemove id)
      pure .done

/-- What a call is to be recorded with, if it succeeds; the entries have no ids yet. -/
def recordsOf (call : Host × StoreCall) (store : Store) (answer : Answer) : List AuditEntry :=
  match call.2, answer with
  | .importFile _ _ _ _ label _, .imported certId => [importedEntry call.1 "" certId label]
  | .deleteCert label, _ =>
      ofOutcome (fun cert => [deletedEntry call.1 "" cert.id label]) (getCertByLabel store label)
  | .exportPfx certId _, _ => [exportedEntry call.1 "" certId]
  | .createBackup _, _ => [createdEntry call.1 ""]
  | .restoreBackup _ _, .restored result => [restoredEntry call.1 result ""]
  | _, _ => []

variable {crates parsers readers writer codec order} {host : Host} {master : Bytes}

theorem records_deleteCert (label : String) :
    Records (storeWatch master) unnumbered
      (fun store _ =>
        ofOutcome (fun cert => [deletedEntry host "" cert.id label]) (getCertByLabel store label))
      (deleteCert host label) := by
  rw [deleteCert]
  apply Records.reads_bind fun (cert : Cert) _ => [deletedEntry host "" cert.id label]
  intro cert
  apply records_withConn
  rw [deleteRecorded]
  apply Silent.bind_records fun _ => ⟨rfl, id⟩
  intro _
  exact records_numbered host fun _ => rfl

theorem records_exportPfx (certId exportPassword : String) :
    Records (storeWatch master) unnumbered (fun _ _ => [exportedEntry host "" certId])
      (exportPfx crates writer host certId exportPassword) := by
  rw [exportPfx]
  apply (silent_reads _).bind_records
  intro contents
  apply (silent_lift _).bind_records
  intro pfxBytes
  have hrecorded : Records (storeWatch master) unnumbered
      (fun _ _ => [exportedEntry host "" certId]) (withConn (recordExported host certId)) :=
    records_withConn (records_numbered host fun _ => rfl)
  exact hrecorded.andPure fun _ _ => rfl

theorem records_createBackup (backupPassword : String) :
    Records (storeWatch master) unnumbered (fun _ _ => [createdEntry host ""])
      (createBackup codec order host backupPassword) := by
  rw [createBackup]
  apply (silent_reads _).bind_records
  intro payload
  apply (silent_lift _).bind_records
  intro json
  apply (silent_lift _).bind_records
  intro encrypted
  have hrecorded : Records (storeWatch master) unnumbered (fun _ _ => [createdEntry host ""])
      (withConn (recordCreated host)) :=
    records_withConn (records_numbered host fun _ => rfl)
  exact hrecorded.andPure fun _ _ => rfl

theorem silent_restoreCert (entry : BackupCert) :
    Silent sessionWatch (restoreCert host entry) := by
  apply silent_unlessExists
  rw [insertCertAndKey]
  apply (silent_lift _).bind
  intro certDer
  apply (silent_insert (fun _ _ => rfl) _).bind
  intro _
  apply (silent_newId host).bind
  intro id
  exact silent_insert (fun _ _ => rfl) _

theorem records_restorePayload (payload : BackupPayload) :
    Records sessionWatch unnumbered (fun _ result => [restoredEntry host result ""])
      (restorePayload host payload) := by
  rw [restorePayload]
  apply (silent_loadAll (fun _ =>
    silent_unlessExists _ (silent_insert (fun _ _ => rfl) _)) _).bind_records
  intro caCertCount
  apply (silent_loadAll silent_restoreCert _).bind_records
  intro certCount
  apply (silent_loadAll (fun _ =>
    silent_unlessExists _ (silent_insert (fun _ _ => rfl) _)) _).bind_records
  intro sshKeyCount
  apply (silent_loadAll (fun _ =>
    silent_unlessExists _ (silent_insert (fun _ _ => rfl) _)) _).bind_records
  intro appCount
  apply (silent_loadAll (fun _ =>
    (silent_insertOrIgnore (fun _ _ => rfl) _).bind fun _ => silent_pure 1) _).bind_records
  intro routeCount
  apply (silent_loadAll (fun _ =>
    (silent_insertOrIgnore (fun _ _ => rfl) _).bind fun _ => silent_pure 1) _).bind_records
  intro sshRouteCount
  rw [recordRestored]
  apply (silent_newId host).bind_records
  intro id
  exact (records_insertAudit _).andPure fun _ _ => rfl

theorem records_restoreBackup (backupData : Bytes) (backupPassword : String) :
    Records (storeWatch master) unnumbered (fun _ result => [restoredEntry host result ""])
      (restoreBackup codec host backupData backupPassword) := by
  rw [restoreBackup]
  apply (silent_lift _).bind_records
  intro json
  apply (silent_lift _).bind_records
  intro payload
  exact records_withConn (records_restorePayload payload)

theorem silent_withConn {α : Type} {body : Effect Session StoreError α}
    (h : Silent sessionWatch body) : Silent (storeWatch master) (withConn body) := by
  intro store
  cases store with
  | locked => exact ⟨rfl, id⟩
  | unlocked database passphrase =>
      refine ⟨(h { database := database, drawn := 0 }).1, ?_⟩
      rintro ⟨found, hfound⟩
      obtain ⟨-, rfl⟩ := Store.unlocked.inj hfound
      exact ⟨_, rfl⟩

/-- The calls for applications and for routes leave no records. -/
theorem silent_appAdd (files : Files) (label exe : String) :
    Silent (storeWatch master) (appAdd crates files host label exe) := by
  rw [appAdd]
  apply (silent_lift _).bind
  intro hash
  have hinsert : Silent (storeWatch master) (withConn (insertApp host label exe hash)) :=
    silent_withConn ((silent_newId host).bind fun _ => silent_insert (fun _ _ => rfl) _)
  exact Silent.bind hinsert fun _ => silent_pure _

theorem silent_routeAdd (request : RouteRequest) :
    Silent (storeWatch master) (routeAdd host request) := by
  rw [routeAdd]
  apply (silent_reads _).bind
  intro cert
  apply (silent_reads _).bind
  intro appId
  have hinsert :
      Silent (storeWatch master) (withConn (insertRoute host cert.id appId request)) := by
    apply silent_withConn
    rw [insertRoute]
    apply (silent_newId host).bind
    intro id
    exact (silent_insert (fun _ _ => rfl) _).bind fun _ => silent_pure id
  exact Silent.bind hinsert fun _ => silent_pure _

theorem silent_routeRemove (id : String) : Silent (storeWatch master) (routeRemove id) := by
  rw [routeRemove]
  have hdelete : Silent (storeWatch master) (withConn (deleteFromRoutes id)) :=
    silent_withConn fun _ => ⟨rfl, fun h => h⟩
  exact Silent.bind hdelete fun _ => silent_pure _

theorem records_perform (call : Host × StoreCall) :
    Records (storeWatch master) unnumbered (recordsOf call)
      (perform crates parsers readers writer codec order call) := by
  obtain ⟨host, storeCall⟩ := call
  cases storeCall with
  | importFile drawn files path passphrase label keyPath =>
      exact ((records_importFile path passphrase keyPath).mapErr _).andPure fun _ _ => rfl
  | deleteCert label => exact ((records_deleteCert label).mapErr _).andPure fun _ _ => rfl
  | exportPfx certId exportPassword =>
      exact ((records_exportPfx certId exportPassword).mapErr _).andPure fun _ _ => rfl
  | createBackup backupPassword =>
      exact ((records_createBackup backupPassword).mapErr _).andPure fun _ _ => rfl
  | restoreBackup backupData backupPassword =>
      exact ((records_restoreBackup backupData backupPassword).mapErr _).andPure fun _ _ => rfl
  | appAdd files label exe =>
      exact ((silent_appAdd files label exe).records.mapErr _).andPure fun _ _ => rfl
  | routeAdd request => exact ((silent_routeAdd request).records.mapErr _).andPure fun _ _ => rfl
  | routeRemove id => exact ((silent_routeRemove id).records.mapErr _).andPure fun _ _ => rfl

end Calls

section Runs

variable (crates : Crates) (parsers : DerParsers) (readers : FileReaders) (writer : PfxWriter)
  (codec : BackupCodec) (order : JoinOrder)

/-- Each call with the time at which it is made, and what it is recorded with. -/
def auditing : Store → Host × StoreCall → Store × List AuditEntry :=
  recording (perform crates parsers readers writer codec order) recordsOf

variable {crates parsers readers writer codec order}

theorem log_of_run (store : Store) (calls : List (Host × StoreCall)) :
    ∃ added,
      storeLog (run (auditing crates parsers readers writer codec order) store calls).1 =
        storeLog store ++ added ∧
      added.map unnumbered =
        (run (auditing crates parsers readers writer codec order) store calls).2 :=
  @log_run _ _ _ _ _ _ (perform crates parsers readers writer codec order) recordsOf (storeWatch [])
    unnumbered records_perform store calls

theorem unlocked_of_run {master : Bytes} (database : Database) (calls : List (Host × StoreCall)) :
    ∃ after, (run (auditing crates parsers readers writer codec order) (.unlocked database master)
      calls).1 = .unlocked after master :=
  @sound_run _ _ _ _ _ _ (perform crates parsers readers writer codec order) recordsOf
    (storeWatch master) unnumbered records_perform _ ⟨database, rfl⟩ calls

/-- Whatever is done with an unlocked store, and whether it succeeds or not, the log keeps its
entries and is added to by just what has succeeded of what is to be recorded. -/
theorem audit_log_append_only (crates : Crates) (parsers : DerParsers) (readers : FileReaders)
    (writer : PfxWriter) (codec : BackupCodec) (order : JoinOrder) (master : Bytes)
    (database : Database) (calls : List (Host × StoreCall)) :
    ∃ after added,
      (run (auditing crates parsers readers writer codec order) (.unlocked database master)
        calls).1 = .unlocked after master ∧
      after.auditLog = database.auditLog ++ added ∧
      added.map unnumbered =
        (run (auditing crates parsers readers writer codec order) (.unlocked database master)
          calls).2 := by
  obtain ⟨added, hadded, hshape⟩ := log_of_run (.unlocked database master) calls
  obtain ⟨after, hafter⟩ := unlocked_of_run database calls
  rw [hafter] at hadded
  exact ⟨after, added, hafter, hadded, hshape⟩

end Runs

end TrafficCone.AuditTrail
