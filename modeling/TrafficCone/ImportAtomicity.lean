import TrafficCone.CustodyRuns
import TrafficCone.FailingStatements

namespace TrafficCone.ImportAtomicity

open TrafficCone.Outcomes
open TrafficCone.StoreModels
open TrafficCone.LinkedCrates
open TrafficCone.StatementFailures
open TrafficCone.DatabaseTables
open TrafficCone.BackupArchives
open TrafficCone.CertificateImport
open TrafficCone.StoreCommands
open TrafficCone.FailingStatements
open TrafficCone.BackupRoundTrip (officeDatabase)
open TrafficCone.CustodyRuns (lenientParsers officeRandomness hostAt)

/-- The `INSERT` with this number fails, in SQLite or because the row is not unique. -/
def Blocked {ρ : Type} (failures : Failures) (table : Table ρ) (database : Database) (number : Nat)
    (row : ρ) : Prop :=
  failures number ≠ none ∨ table.conflict database row ≠ none

section Importing

/-- The metadata, the algorithm and the encrypted key with which an import comes to its
statements. -/
structure Prepared (crates : Crates) (parsers : DerParsers) (drawn : KeyRandomness)
    (certDer keyDer master : Bytes) (metadata : CertMeta) (algorithm : KeyAlgorithm)
    (encrypted : Bytes × Bytes × Bytes) : Prop where
  metadata : parseCertMetadata crates parsers certDer = .ok metadata
  algorithm : detectKeyAlgorithm parsers keyDer = .ok algorithm
  encrypted : encryptKey crates drawn.salt drawn.nonce keyDer master = .ok encrypted

variable (failures : Failures) (host : Host) (certDer : Bytes) (label : String)
  (metadata : CertMeta) (algorithm : KeyAlgorithm) (encrypted : Bytes × Bytes × Bytes)
  (database : Database)

def withCert : Database :=
  { database with
    certs := database.certs ++ [importedCert host (host.newId 0) certDer label metadata] }

def withCertAndKey : Database :=
  { database with
    certs := database.certs ++ [importedCert host (host.newId 0) certDer label metadata]
    keys := database.keys ++ [importedKey (host.newId 1) (host.newId 0) algorithm encrypted] }

def CertBlocked : Prop :=
  Blocked failures certs database 0 (importedCert host (host.newId 0) certDer label metadata)

def KeyBlocked : Prop :=
  Blocked failures keys database 1 (importedKey (host.newId 1) (host.newId 0) algorithm encrypted)

def EntryBlocked : Prop :=
  Blocked failures auditLog database 2 (importedEntry host (host.newId 2) (host.newId 0) label)

/-- What the three statements of an import leave when one of them fails: the certificate and
its key stay if they have been inserted. -/
inductive ImportLeaves : Database → Prop where
  | nothing (hcert : CertBlocked failures host certDer label metadata database) :
      ImportLeaves database
  | certificate (hcert : ¬ CertBlocked failures host certDer label metadata database)
      (hkey : KeyBlocked failures host algorithm encrypted database) :
      ImportLeaves (withCert host certDer label metadata database)
  | unaudited (hcert : ¬ CertBlocked failures host certDer label metadata database)
      (hkey : ¬ KeyBlocked failures host algorithm encrypted database)
      (hentry : EntryBlocked failures host label database) :
      ImportLeaves (withCertAndKey host certDer label metadata algorithm encrypted database)

variable {failures host certDer label metadata algorithm encrypted database}

theorem insertFails_iff {ρ : Type} {table : Table ρ} {row : ρ} {attempt : Attempt Session}
    (h : table.references attempt.state.database row = true) :
    InsertFails failures table row attempt ↔
      Blocked failures table attempt.state.database attempt.issued row := by
  rw [InsertFails, Blocked, h]
  simp

theorem certFails_iff :
    InsertFails failures certs (importedCert host (host.newId 0) certDer label metadata)
        { state := { database := database, drawn := 2 }, issued := 0 } ↔
      CertBlocked failures host certDer label metadata database :=
  insertFails_iff rfl

/-- The key refers to the certificate that has just been inserted. -/
theorem keyFails_iff :
    InsertFails failures keys (importedKey (host.newId 1) (host.newId 0) algorithm encrypted)
        { state := { database := withCert host certDer label metadata database, drawn := 2 }
          issued := 1 } ↔
      KeyBlocked failures host algorithm encrypted database := by
  have hreferences : keys.references (withCert host certDer label metadata database)
      (importedKey (host.newId 1) (host.newId 0) algorithm encrypted) = true := by
    simp [keys, withCert, importedKey, importedCert]
  rw [insertFails_iff hreferences]
  exact Iff.rfl

theorem entryFails_iff :
    InsertFails failures auditLog (importedEntry host (host.newId 2) (host.newId 0) label)
        { state :=
            { database := withCertAndKey host certDer label metadata algorithm encrypted database
              drawn := 3 }
          issued := 2 } ↔
      EntryBlocked failures host label database := by
  rw [insertFails_iff rfl]
  exact Iff.rfl

theorem statement_cert (h : ¬ CertBlocked failures host certDer label metadata database) :
    statement failures (certs.insert (importedCert host (host.newId 0) certDer label metadata))
        { state := { database := database, drawn := 2 }, issued := 0 } =
      (.ok (),
        { state := { database := withCert host certDer label metadata database, drawn := 2 }
          issued := 1 }) :=
  statement_insert_of_not_fails (mt certFails_iff.mp h)

theorem statement_key (h : ¬ KeyBlocked failures host algorithm encrypted database) :
    statement failures (keys.insert (importedKey (host.newId 1) (host.newId 0) algorithm encrypted))
        { state := { database := withCert host certDer label metadata database, drawn := 2 }
          issued := 1 } =
      (.ok (),
        { state :=
            { database := withCertAndKey host certDer label metadata algorithm encrypted database
              drawn := 2 }
          issued := 2 }) :=
  statement_insert_of_not_fails (mt keyFails_iff.mp h)

theorem of_insertImportedUnder_err {error : StoreError} {after : Attempt Session}
    (h : insertImportedUnder failures host certDer label metadata algorithm encrypted
      { state := { database := database, drawn := 0 }, issued := 0 } = (.err error, after)) :
    ImportLeaves failures host certDer label metadata algorithm encrypted database
      after.state.database := by
  rw [insertImportedUnder, compute_newId_bind, compute_newId_bind] at h
  by_cases hcert : CertBlocked failures host certDer label metadata database
  · obtain ⟨found, hcall⟩ := statement_insert_of_fails (certFails_iff.mpr hcert)
    rw [Effect.bind_of_err hcall] at h
    obtain ⟨-, rfl⟩ := Prod.mk.inj h
    exact .nothing hcert
  rw [Effect.bind_of_ok (statement_cert hcert)] at h
  by_cases hkey : KeyBlocked failures host algorithm encrypted database
  · obtain ⟨found, hcall⟩ :=
      statement_insert_of_fails ((@keyFails_iff _ _ certDer label metadata _ _ _).mpr hkey)
    rw [Effect.bind_of_err hcall] at h
    obtain ⟨-, rfl⟩ := Prod.mk.inj h
    exact .certificate hcert hkey
  rw [Effect.bind_of_ok (statement_key hkey), compute_newId_bind] at h
  by_cases hentry : EntryBlocked failures host label database
  · obtain ⟨found, hcall⟩ := statement_insert_of_fails
      ((@entryFails_iff _ _ certDer label metadata algorithm encrypted _).mpr hentry)
    rw [Effect.bind_of_err hcall] at h
    obtain ⟨-, rfl⟩ := Prod.mk.inj h
    exact .unaudited hcert hkey hentry
  · have hrecorded := statement_insert_of_not_fails
      (mt (@entryFails_iff _ _ certDer label metadata algorithm encrypted _).mp hentry)
    rw [Effect.bind_of_ok hrecorded] at h
    cases (Prod.mk.inj h).1

theorem ImportLeaves.eq_iff {after : Database}
    (h : ImportLeaves failures host certDer label metadata algorithm encrypted database after) :
    after = database ↔ CertBlocked failures host certDer label metadata database := by
  cases h with
  | nothing hcert => exact iff_of_true rfl hcert
  | certificate hcert hkey =>
      refine iff_of_false ?_ hcert
      intro hsame
      have hlength := congrArg (fun other => other.certs.length) hsame
      simp [withCert] at hlength
  | unaudited hcert hkey hentry =>
      refine iff_of_false ?_ hcert
      intro hsame
      have hlength := congrArg (fun other => other.certs.length) hsame
      simp [withCertAndKey] at hlength

variable {crates : Crates} {parsers : DerParsers} {drawn : KeyRandomness} {keyDer master : Bytes}
  {store after : Store} {error : StoreError}

theorem storeCertAndKeyUnder_of_prepared
    (h : Prepared crates parsers drawn certDer keyDer master metadata algorithm encrypted) :
    storeCertAndKeyUnder failures crates parsers host drawn certDer keyDer label
        (.unlocked database master) =
      withConnUnder (insertImportedUnder failures host certDer label metadata algorithm encrypted)
        (.unlocked database master) := by
  have hmaster : Effect.reads Store.passphrase (.unlocked database master) =
      (.ok master, .unlocked database master) := rfl
  rw [storeCertAndKeyUnder, h.metadata, Effect.lift_ok_bind, h.algorithm, Effect.lift_ok_bind,
    Effect.bind_of_ok hmaster, h.encrypted, Effect.lift_ok_bind]

theorem storeCertAndKeyUnder_of_unprepared
    (h : ∀ metadata algorithm encrypted,
      ¬ Prepared crates parsers drawn certDer keyDer master metadata algorithm encrypted) :
    (storeCertAndKeyUnder failures crates parsers host drawn certDer keyDer label
      (.unlocked database master)).2 = .unlocked database master := by
  have hmaster : Effect.reads Store.passphrase (.unlocked database master) =
      (.ok master, .unlocked database master) := rfl
  rw [storeCertAndKeyUnder]
  cases hmetadata : parseCertMetadata crates parsers certDer with
  | err error => rfl
  | panicked => rfl
  | ok metadata =>
      rw [Effect.lift_ok_bind]
      cases halgorithm : detectKeyAlgorithm parsers keyDer with
      | err error => rfl
      | panicked => rfl
      | ok algorithm =>
          rw [Effect.lift_ok_bind, Effect.bind_of_ok hmaster]
          cases hencrypted : encryptKey crates drawn.salt drawn.nonce keyDer master with
          | err error => rfl
          | panicked => rfl
          | ok encrypted =>
              exact absurd ⟨hmetadata, halgorithm, hencrypted⟩ (h metadata algorithm encrypted)

theorem storeCertAndKeyUnder_locked :
    (storeCertAndKeyUnder failures crates parsers host drawn certDer keyDer label .locked).2 =
      .locked := by
  rw [storeCertAndKeyUnder]
  cases parseCertMetadata crates parsers certDer with
  | err error => rfl
  | panicked => rfl
  | ok metadata =>
      rw [Effect.lift_ok_bind]
      cases detectKeyAlgorithm parsers keyDer <;> rfl

variable (failures crates parsers host drawn certDer keyDer label)

/-- An import that cannot come to its statements changes nothing, and any other one leaves
what its statements leave. -/
inductive FailedImport : Store → Store → Prop where
  | locked : FailedImport .locked .locked
  | unprepared (database : Database) (master : Bytes)
      (h : ∀ metadata algorithm encrypted,
        ¬ Prepared crates parsers drawn certDer keyDer master metadata algorithm encrypted) :
      FailedImport (.unlocked database master) (.unlocked database master)
  | prepared (database after : Database) (master : Bytes) (metadata : CertMeta)
      (algorithm : KeyAlgorithm) (encrypted : Bytes × Bytes × Bytes)
      (h : Prepared crates parsers drawn certDer keyDer master metadata algorithm encrypted)
      (hleaves : ImportLeaves failures host certDer label metadata algorithm encrypted database
        after) :
      FailedImport (.unlocked database master) (.unlocked after master)

/-- The import comes to its statements only to fail with the first. -/
def ImportStopsFirst : Store → Prop
  | .locked => True
  | .unlocked database master => ∀ metadata algorithm encrypted,
      Prepared crates parsers drawn certDer keyDer master metadata algorithm encrypted →
        CertBlocked failures host certDer label metadata database

variable {failures crates parsers host drawn certDer keyDer label}

theorem failed_import
    (h : storeCertAndKeyUnder failures crates parsers host drawn certDer keyDer label store =
      (.err error, after)) :
    FailedImport failures host certDer label crates parsers drawn keyDer store after := by
  have hafter := congrArg Prod.snd h
  cases store with
  | locked =>
      rw [storeCertAndKeyUnder_locked] at hafter
      obtain rfl : Store.locked = after := hafter
      exact .locked
  | unlocked database master =>
      by_cases hprepared : ∃ metadata algorithm encrypted,
          Prepared crates parsers drawn certDer keyDer master metadata algorithm encrypted
      · obtain ⟨metadata, algorithm, encrypted, hprepared⟩ := hprepared
        rw [storeCertAndKeyUnder_of_prepared hprepared, withConnUnder] at h
        obtain ⟨hfailed, rfl⟩ := Prod.mk.inj h
        exact .prepared database _ master metadata algorithm encrypted hprepared
          (of_insertImportedUnder_err (Effect.eq_of_fst hfailed))
      · simp only [not_exists] at hprepared
        rw [storeCertAndKeyUnder_of_unprepared hprepared] at hafter
        obtain rfl : Store.unlocked database master = after := hafter
        exact .unprepared database master hprepared

theorem FailedImport.eq_iff
    (h : FailedImport failures host certDer label crates parsers drawn keyDer store after) :
    after = store ↔
      ImportStopsFirst failures host certDer label crates parsers drawn keyDer store := by
  cases h with
  | locked => exact iff_of_true rfl trivial
  | unprepared database master hunprepared =>
      exact iff_of_true rfl fun metadata algorithm encrypted hprepared =>
        absurd hprepared (hunprepared metadata algorithm encrypted)
  | prepared database after master metadata algorithm encrypted hprepared hleaves =>
      rw [Store.unlocked.injEq, hleaves.eq_iff]
      constructor
      · rintro ⟨hblocked, -⟩ other found blobs hother
        obtain rfl := Outcome.ok.inj (hprepared.metadata.symm.trans hother.metadata)
        exact hblocked
      · intro hstops
        exact ⟨hstops metadata algorithm encrypted hprepared, rfl⟩

end Importing

section Removing

variable (failures : Failures) (host : Host) (label : String)

/-- The removal finds no certificate, or cannot delete it. -/
def RemovalStopsFirst : Store → Prop
  | .locked => True
  | .unlocked database _ => failures 0 ≠ none ∨
      (database.certs.find? fun row => row.label = label) = none ∨ failures 1 ≠ none

/-- A removal that fails behind its deletion leaves it done, and unaudited. -/
inductive FailedRemoval : Store → Store → Prop where
  | nothing (store : Store) (h : RemovalStopsFirst failures label store) :
      FailedRemoval store store
  | unaudited (database : Database) (master : Bytes) (cert : Cert)
      (hcert : (database.certs.find? fun row => row.label = label) = some cert)
      (hselect : failures 0 = none) (hdelete : failures 1 = none)
      (hentry : Blocked failures auditLog database 2
        (deletedEntry host (host.newId 0) cert.id label)) :
      FailedRemoval (.unlocked database master) (.unlocked (withoutCert cert.id database) master)

variable {failures host label} {store after : Store} {error : StoreError}

theorem of_deletion_err {database : Database} {cert : Cert} {found : Attempt Session}
    (h : (do
      statement failures (deleteFromCerts cert.id)
      let id ← compute (newId host)
      statement failures (auditLog.insert (deletedEntry host id cert.id label)) :
        Effect (Attempt Session) StoreError Unit)
      { state := { database := database, drawn := 0 }, issued := 1 } = (.err error, found)) :
    (failures 1 ≠ none ∧ found.state.database = database) ∨
      (failures 1 = none ∧
        Blocked failures auditLog database 2 (deletedEntry host (host.newId 0) cert.id label) ∧
          found.state.database = withoutCert cert.id database) := by
  cases hdelete : failures 1 with
  | some message =>
      have hdeleted := @statement_of_some failures _ (deleteFromCerts cert.id)
        { state := { database := database, drawn := 0 }, issued := 1 } _ hdelete
      rw [Effect.bind_of_err hdeleted] at h
      obtain ⟨-, rfl⟩ := Prod.mk.inj h
      exact Or.inl ⟨by simp, rfl⟩
  | none =>
      have hdeleted : statement failures (deleteFromCerts cert.id)
          { state := { database := database, drawn := 0 }, issued := 1 } =
            (.ok (),
              { state := { database := withoutCert cert.id database, drawn := 0 }
                issued := 2 }) := statement_of_none hdelete
      rw [Effect.bind_of_ok hdeleted, compute_newId_bind] at h
      by_cases hentry : InsertFails failures auditLog
          (deletedEntry host (host.newId 0) cert.id label)
          { state := { database := withoutCert cert.id database, drawn := 1 }, issued := 2 }
      · obtain ⟨found, hcall⟩ := statement_insert_of_fails hentry
        rw [hcall] at h
        obtain ⟨-, rfl⟩ := Prod.mk.inj h
        exact Or.inr ⟨rfl, (insertFails_iff rfl).mp hentry, rfl⟩
      · rw [statement_insert_of_not_fails hentry] at h
        cases (Prod.mk.inj h).1

theorem failed_removal (h : deleteCertUnder failures host label store = (.err error, after)) :
    FailedRemoval failures host label store after := by
  cases store with
  | locked =>
      obtain ⟨-, rfl⟩ := Prod.mk.inj h
      exact .nothing .locked trivial
  | unlocked database master =>
      rw [deleteCertUnder, withConnUnder] at h
      cases hselect : failures 0 with
      | some message =>
          have hselected := @selectCertUnder_of_some failures
            { state := { database := database, drawn := 0 }, issued := 0 } label _ hselect
          rw [Effect.bind_of_err hselected] at h
          obtain ⟨-, rfl⟩ := Prod.mk.inj h
          exact .nothing _ (Or.inl (by simp [hselect]))
      | none =>
          have hselected := @selectCertUnder_of_none failures label database 0 0 hselect
          cases hcert : database.certs.find? fun row => row.label = label with
          | none =>
              rw [hcert, Outcome.ofOption_none] at hselected
              rw [Effect.bind_of_err hselected] at h
              obtain ⟨-, rfl⟩ := Prod.mk.inj h
              exact .nothing _ (Or.inr (Or.inl hcert))
          | some cert =>
              rw [hcert, Outcome.ofOption_some] at hselected
              rw [Effect.bind_of_ok hselected] at h
              obtain ⟨hfailed, rfl⟩ := Prod.mk.inj h
              rcases of_deletion_err (Effect.eq_of_fst hfailed) with
                ⟨hdelete, hsame⟩ | ⟨hdelete, hentry, hdeleted⟩
              · rw [hsame]
                exact .nothing _ (Or.inr (Or.inr hdelete))
              · rw [hdeleted]
                exact .unaudited database master cert hcert hselect hdelete hentry

theorem FailedRemoval.eq_iff (h : FailedRemoval failures host label store after) :
    after = store ↔ RemovalStopsFirst failures label store := by
  cases h with
  | nothing store hstops => exact iff_of_true rfl hstops
  | unaudited database master cert hcert hselect hdelete hentry =>
      refine iff_of_false ?_ ?_
      · intro hsame
        have hcerts := congrArg (·.certs) (Store.unlocked.inj hsame).1
        have hmem : cert ∈ (withoutCert cert.id database).certs := by
          rw [hcerts]
          exact List.mem_of_find?_eq_some hcert
        simp [withoutCert] at hmem
      · simp [RemovalStopsFirst, hcert, hselect, hdelete]

end Removing

/-- What an import or a removal that fails leaves. Each has left everything as it was exactly
if it failed no later than with its first change. -/
theorem failed_import_and_removal (failures : Failures) (crates : Crates) (parsers : DerParsers)
    (host : Host) (drawn : KeyRandomness) (certDer keyDer : Bytes) (label : String)
    (store : Store) :
    (∀ error after, storeCertAndKeyUnder failures crates parsers host drawn certDer keyDer label
        store = (.err error, after) →
      FailedImport failures host certDer label crates parsers drawn keyDer store after ∧
        (after = store ↔
          ImportStopsFirst failures host certDer label crates parsers drawn keyDer store)) ∧
    (∀ error after, deleteCertUnder failures host label store = (.err error, after) →
      FailedRemoval failures host label store after ∧
        (after = store ↔ RemovalStopsFirst failures label store)) := by
  constructor
  · intro error after h
    have hfailed := failed_import h
    exact ⟨hfailed, hfailed.eq_iff⟩
  · intro error after h
    have hfailed := failed_removal h
    exact ⟨hfailed, hfailed.eq_iff⟩

/-- Other users keep the database busy while one statement is issued. -/
def busyAt (number : Nat) : Failures := fun other =>
  if other = number then some "database is locked" else none

/-- The certificate of an import stays without a key, and a removal stays unaudited. -/
theorem half_done_when_busy :
    (∃ after, storeCertAndKeyUnder (busyAt 1) plainCrates lenientParsers (hostAt 'm')
        officeRandomness [0x30, 1] [1, 2] "laptop" (.unlocked {} [1]) =
          (.err (.database "database is locked"), .unlocked after [1]) ∧
      after.certs.map (·.label) = ["laptop"] ∧ after.keys = []) ∧
    (∃ after, deleteCertUnder (busyAt 2) (hostAt 'm') "office" (.unlocked officeDatabase [1]) =
        (.err (.database "database is locked"), .unlocked after [1]) ∧
      officeDatabase.certs.map (·.label) = ["office"] ∧ after.certs = [] ∧
        after.auditLog = officeDatabase.auditLog) := by
  constructor
  · exact ⟨withCert (hostAt 'm') [0x30, 1] "laptop"
      { fingerprint := hashBytes plainCrates [0x30, 1], subject := "CN=office", issuer := "CN=ca"
        notBefore := 0, notAfter := 100 } {}, by decide +kernel, by decide, rfl⟩
  · exact ⟨withoutCert "c1" officeDatabase, by decide +kernel, by decide, by decide, rfl⟩

theorem failed_import_and_removal_when_busy :
    ∃ error after,
      storeCertAndKeyUnder (busyAt 1) plainCrates lenientParsers (hostAt 'm') officeRandomness
          [0x30, 1] [1, 2] "laptop" (.unlocked {} [1]) = (.err error, after) ∧
        FailedImport (busyAt 1) (hostAt 'm') [0x30, 1] "laptop" plainCrates lenientParsers
          officeRandomness [1, 2] (.unlocked {} [1]) after := by
  have hrun : storeCertAndKeyUnder (busyAt 1) plainCrates lenientParsers (hostAt 'm')
      officeRandomness [0x30, 1] [1, 2] "laptop" (.unlocked {} [1]) =
        (.err (.database "database is locked"), .unlocked (withCert (hostAt 'm') [0x30, 1] "laptop"
          { fingerprint := hashBytes plainCrates [0x30, 1], subject := "CN=office"
            issuer := "CN=ca", notBefore := 0, notAfter := 100 } {}) [1]) := by
    decide +kernel
  exact ⟨_, _, hrun, ((failed_import_and_removal (busyAt 1) plainCrates lenientParsers (hostAt 'm')
    officeRandomness [0x30, 1] [1, 2] "laptop" (.unlocked {} [1])).1 _ _ hrun).1⟩

end TrafficCone.ImportAtomicity
