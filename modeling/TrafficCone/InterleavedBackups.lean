import TrafficCone.ForeignKeyFailures
import TrafficCone.SplitReads

namespace TrafficCone.InterleavedBackups

open TrafficCone.Outcomes
open TrafficCone.StoreModels
open TrafficCone.DatabaseTables
open TrafficCone.BackupArchives
open TrafficCone.BackupRoundTrip
open TrafficCone.CommittedStatements
open TrafficCone.SplitReads
open TrafficCone.ForeignKeyFailures

/-- What other processes commit before each of the six queries of a collection. -/
structure Commits where
  beforeCerts : List Statement := []
  beforeSshKeys : List Statement := []
  beforeCaCerts : List Statement := []
  beforeApps : List Statement := []
  beforeRoutes : List Statement := []
  beforeSshRoutes : List Statement := []

def Commits.statements (commits : Commits) : List Statement :=
  commits.beforeCerts ++ commits.beforeSshKeys ++ commits.beforeCaCerts ++ commits.beforeApps ++
    commits.beforeRoutes ++ commits.beforeSshRoutes

/-- The databases that the queries of a collection read. -/
structure Snapshots where
  certs : Database
  sshKeys : Database
  caCerts : Database
  apps : Database
  routes : Database
  sshRoutes : Database

def snapshots (database : Database) (commits : Commits) : Snapshots :=
  let atCerts := commitAll database commits.beforeCerts
  let atSshKeys := commitAll atCerts commits.beforeSshKeys
  let atCaCerts := commitAll atSshKeys commits.beforeCaCerts
  let atApps := commitAll atCaCerts commits.beforeApps
  let atRoutes := commitAll atApps commits.beforeRoutes
  { certs := atCerts
    sshKeys := atSshKeys
    caCerts := atCaCerts
    apps := atApps
    routes := atRoutes
    sshRoutes := commitAll atRoutes commits.beforeSshRoutes }

/-- `payloadOf` when each query reads a snapshot of its own. -/
def payloadAcross (order : JoinOrder) (read : Snapshots) (exportedAt : Int) : BackupPayload :=
  { version := 1
    exportedAt := exportedAt
    certs := order.rows read.certs
    sshKeys := read.sshKeys.sshKeys.map backupSshKey
    caCerts := read.caCerts.caCerts.map backupCaCert
    apps := read.apps.apps.map backupApp
    routes := read.routes.routes.map backupRoute
    sshRoutes := read.sshRoutes.sshRoutes.map backupSshRoute }

theorem payloadAcross_undisturbed (order : JoinOrder) (database : Database) (exportedAt : Int) :
    payloadAcross order (snapshots database {}) exportedAt =
      payloadOf order database exportedAt := rfl

/-- Every route in the table when the routes are read is for a certificate whose key was
already there when the certificates were read, and names no application that was not
there when the applications were. -/
def Timely (read : Snapshots) : Prop :=
  ∀ route ∈ read.routes.routes,
    (∃ key ∈ read.certs.keys, key.certId = route.certId) ∧
      ∀ id, route.appId = some id → ∃ app ∈ read.apps.apps, app.id = id

section Commands

variable {database : Database}

/-- The commands do not write the tables for SSH. -/
theorem ssh_commit {statement : Statement} (h : statement.ofCommand = true) :
    (commit database statement).sshKeys = database.sshKeys ∧
      (commit database statement).sshRoutes = database.sshRoutes := by
  have hchange := change_commit database statement
  generalize commit database statement = other at hchange ⊢
  cases hchange with
  | sshKey hunique => cases h
  | sshRoute hunique hreferences => cases h
  | _ => exact ⟨rfl, rfl⟩

theorem ssh_commitAll {statements : List Statement}
    (h : ∀ statement ∈ statements, statement.ofCommand = true) :
    (commitAll database statements).sshKeys = database.sshKeys ∧
      (commitAll database statements).sshRoutes = database.sshRoutes := by
  induction statements generalizing database with
  | nil => exact ⟨rfl, rfl⟩
  | cons statement statements ih =>
      rw [List.forall_mem_cons] at h
      obtain ⟨hkeys, hroutes⟩ := @ssh_commit database statement h.1
      obtain ⟨hlaterKeys, hlaterRoutes⟩ := @ih (commit database statement) h.2
      exact ⟨hlaterKeys.trans hkeys, hlaterRoutes.trans hroutes⟩

theorem apps_subset_commitAll (database : Database) (statements : List Statement) :
    database.apps ⊆ (commitAll database statements).apps := by
  obtain ⟨added, hadded⟩ := apps_commitAll database statements
  rw [hadded]
  exact List.subset_append_left _ _

/-- The databases read, one after another, and what is known of each. -/
structure Reading (database : Database) (read : Snapshots) : Prop where
  certs : WellFormed read.certs
  apps : WellFormed read.apps
  appsBefore : database.apps ⊆ read.apps.apps
  sshKeys : read.sshKeys.sshKeys = database.sshKeys
  sshRoutes : read.sshRoutes.sshRoutes = database.sshRoutes

theorem reading_snapshots (hwell : WellFormed database) {commits : Commits}
    (hcommands : ∀ statement ∈ commits.statements, statement.ofCommand = true) :
    Reading database (snapshots database commits) := by
  simp only [Commits.statements, List.forall_mem_append] at hcommands
  obtain ⟨⟨⟨⟨⟨hcerts, hsshKeys⟩, hcaCerts⟩, happs⟩, hroutes⟩, hsshRoutes⟩ := hcommands
  have hatCerts := wellFormed_commitAll hwell commits.beforeCerts
  have hatSshKeys := wellFormed_commitAll hatCerts commits.beforeSshKeys
  have hatCaCerts := wellFormed_commitAll hatSshKeys commits.beforeCaCerts
  exact
    { certs := hatCerts
      apps := wellFormed_commitAll hatCaCerts commits.beforeApps
      appsBefore :=
        List.Subset.trans (apps_subset_commitAll _ commits.beforeCerts) <|
          List.Subset.trans (apps_subset_commitAll _ commits.beforeSshKeys) <|
            List.Subset.trans (apps_subset_commitAll _ commits.beforeCaCerts)
              (apps_subset_commitAll _ commits.beforeApps)
      sshKeys := (ssh_commitAll hsshKeys).1.trans (ssh_commitAll hcerts).1
      sshRoutes :=
        (ssh_commitAll hsshRoutes).2.trans <| (ssh_commitAll hroutes).2.trans <|
          (ssh_commitAll happs).2.trans <| (ssh_commitAll hcaCerts).2.trans <|
            (ssh_commitAll hsshKeys).2.trans (ssh_commitAll hcerts).2 }

end Commands

section Closure

variable {order : JoinOrder} {database : Database} {read : Snapshots} {exportedAt : Int}

theorem mem_rows_iff {entry : BackupCert} :
    entry ∈ order.rows database ↔
      ∃ cert ∈ database.certs, ∃ key ∈ database.keys, key.certId = cert.id ∧
        backupCert cert key = entry := by
  rw [(order.perm database).mem_iff]
  simp [joinKeys, List.mem_flatMap, and_assoc]

theorem certs_payloadAcross_iff (hread : Reading database read) {certId : String} :
    (∃ cert ∈ (payloadAcross order read exportedAt).certs, cert.id = certId) ↔
      ∃ key ∈ read.certs.keys, key.certId = certId := by
  simp only [payloadAcross, mem_rows_iff]
  constructor
  · rintro ⟨_, ⟨cert, -, key, hkey, howner, rfl⟩, rfl⟩
    exact ⟨key, hkey, howner⟩
  · rintro ⟨key, hkey, rfl⟩
    have hreferences := hread.certs.keys.2 key hkey
    simp only [keys, List.any_eq_true, decide_eq_true_eq] at hreferences
    obtain ⟨cert, hcert, hid⟩ := hreferences
    exact ⟨backupCert cert key, ⟨cert, hcert, key, hkey, hid.symm, rfl⟩, hid⟩

theorem apps_payloadAcross_iff {id : String} :
    (∃ app ∈ (payloadAcross order read exportedAt).apps, app.id = id) ↔
      ∃ app ∈ read.apps.apps, app.id = id := by
  simp [payloadAcross, backupApp]

theorem closed_payloadAcross_iff (hwell : WellFormed database) (hread : Reading database read) :
    Closed (payloadAcross order read exportedAt) ↔ Timely read := by
  constructor
  · intro hclosed route hroute
    have hentry : backupRoute route ∈ (payloadAcross order read exportedAt).routes :=
      List.mem_map_of_mem hroute
    refine ⟨(certs_payloadAcross_iff hread).mp (hclosed.routeCerts _ hentry), ?_⟩
    intro id hid
    exact apps_payloadAcross_iff.mp (hclosed.routeApps _ hentry id hid)
  · intro htimely
    -- What the routes for SSH refer to was there from the start, and nothing takes it away.
    have hsshRoutes : ∀ entry ∈ (payloadAcross order read exportedAt).sshRoutes,
        ∃ row ∈ database.sshRoutes, backupSshRoute row = entry := by
      intro entry hentry
      rw [payloadAcross, hread.sshRoutes] at hentry
      exact List.mem_map.mp hentry
    constructor
    · intro entry hentry
      obtain ⟨row, hrow, rfl⟩ := List.mem_map.mp hentry
      exact (certs_payloadAcross_iff hread).mpr (htimely row hrow).1
    · intro entry hentry id hid
      obtain ⟨row, hrow, rfl⟩ := List.mem_map.mp hentry
      exact apps_payloadAcross_iff.mpr ((htimely row hrow).2 id hid)
    · intro entry hentry
      obtain ⟨row, hrow, rfl⟩ := hsshRoutes entry hentry
      have hreferences := hwell.sshRoutes.2 row hrow
      simp only [sshRoutes, Bool.and_eq_true, List.any_eq_true, decide_eq_true_eq] at hreferences
      obtain ⟨key, hkey, hid⟩ := hreferences.1
      refine ⟨backupSshKey key, ?_, hid⟩
      rw [payloadAcross, hread.sshKeys]
      exact List.mem_map_of_mem hkey
    · intro entry hentry id hid
      obtain ⟨row, hrow, rfl⟩ := hsshRoutes entry hentry
      have hreferences := hwell.sshRoutes.2 row hrow
      simp only [sshRoutes, referencesApp, Bool.and_eq_true, Option.all_eq_true,
        List.any_eq_true, decide_eq_true_eq] at hreferences
      obtain ⟨app, happ, hsame⟩ := hreferences.2 id hid
      exact apps_payloadAcross_iff.mpr ⟨app, hread.appsBefore happ, hsame⟩

theorem consistent_payloadAcross (hread : Reading database read) :
    Consistent (payloadAcross order read exportedAt) where
  certs := by
    intro first hfirst second hsecond hsame
    obtain ⟨cert, hcert, key, -, -, rfl⟩ := mem_rows_iff.mp hfirst
    obtain ⟨other, hother, otherKey, -, -, rfl⟩ := mem_rows_iff.mp hsecond
    have hfingerprints : (read.certs.certs.map (·.fingerprint)).Nodup :=
      hread.certs.certs.1 ("fingerprint", (·.fingerprint)) (by simp [certs])
    rw [List.inj_on_of_nodup_map hfingerprints hcert hother hsame]
    rfl
  apps := by
    intro first hfirst second hsecond hsame
    obtain ⟨app, happ, rfl⟩ := List.mem_map.mp hfirst
    obtain ⟨other, hother, rfl⟩ := List.mem_map.mp hsecond
    have hpaths : (read.apps.apps.map (·.exePath)).Nodup :=
      hread.apps.apps.1 ("exe_path", (·.exePath)) (by simp [apps])
    rw [List.inj_on_of_nodup_map hpaths happ hother hsame]

end Closure

/-- The collected payload is closed, and no restore of it into an empty store fails on a
foreign key, exactly if the collection was timely. -/
theorem closed_and_restores_iff {database : Database} (hwell : WellFormed database)
    {commits : Commits}
    (hcommands : ∀ statement ∈ commits.statements, statement.ofCommand = true)
    (order : JoinOrder) (exportedAt : Int) :
    (Closed (payloadAcross order (snapshots database commits) exportedAt) ∧
      ∀ (host : Host) (target : Database), Empty target →
        (restorePayload host (payloadAcross order (snapshots database commits) exportedAt)
          { database := target, drawn := 0 }).1 ≠ .err Table.foreignKeyFailure) ↔
      Timely (snapshots database commits) := by
  have hread := reading_snapshots hwell hcommands
  rw [← @closed_payloadAcross_iff order database _ exportedAt hwell hread]
  constructor
  · rintro ⟨hclosed, -⟩
    exact hclosed
  · intro hclosed
    refine ⟨hclosed, ?_⟩
    intro host target hempty
    exact restorePayload_fst_ne_foreignKeyFailure hclosed (consistent_payloadAcross hread) hempty 0

section Disturbed

def lateCert : Cert :=
  { id := "c2", label := "phone", certDer := [0x30, 0x83], fingerprint := "bb22"
    subject := "CN=phone", issuer := "CN=ca", notBefore := 0, notAfter := 100, createdAt := 60 }

def lateKey : KeyRow :=
  { id := "k2", certId := "c2", algorithm := "EcP256", keyEnc := [5], keySalt := [6]
    keyNonce := [7] }

def lateRoute : RouteRow :=
  { id := "r2", certId := "c2", appId := none, matchType := "hostname"
    pattern := some "mail.example", requireBoth := 0, priority := 1, createdAt := 61 }

/-- A certificate is imported and given a route while the backup is between its first and
its fifth query. -/
def importedMeanwhile : Commits :=
  { beforeSshKeys := [.insertCert lateCert, .insertKey lateKey]
    beforeRoutes := [.insertRoute lateRoute] }

theorem importedMeanwhile_not_closed :
    WellFormed officeDatabase ∧ OneKeyEach officeDatabase ∧
      (∀ statement ∈ importedMeanwhile.statements, statement.ofCommand = true) ∧
      ¬ Closed (payloadAcross keyOrder (snapshots officeDatabase importedMeanwhile) 50) ∧
      (restorePayload countingHost
        (payloadAcross keyOrder (snapshots officeDatabase importedMeanwhile) 50)
        { database := {}, drawn := 0 }).1 = .err Table.foreignKeyFailure := by
  refine ⟨portable_officeDatabase.wellFormed, portable_officeDatabase.oneKeyEach, ?_, ?_, ?_⟩
  · simp [Commits.statements, importedMeanwhile, Statement.ofCommand]
  · intro hclosed
    have hmissing : ∀ cert ∈
        (payloadAcross keyOrder (snapshots officeDatabase importedMeanwhile) 50).certs,
        cert.id ≠ "c2" := by
      decide +kernel
    have hroute : backupRoute lateRoute ∈
        (payloadAcross keyOrder (snapshots officeDatabase importedMeanwhile) 50).routes := by
      decide +kernel
    obtain ⟨cert, hcert, hid⟩ := hclosed.routeCerts _ hroute
    exact hmissing cert hcert hid
  · decide +kernel

/-- An import that is over before the first query does no harm. -/
theorem closed_importedBefore :
    (Closed (payloadAcross keyOrder (snapshots officeDatabase
        { beforeCerts := [.insertCert lateCert, .insertKey lateKey]
          beforeRoutes := [.insertRoute lateRoute] }) 50) ∧
      ∀ (host : Host) (target : Database), Empty target →
        (restorePayload host (payloadAcross keyOrder (snapshots officeDatabase
          { beforeCerts := [.insertCert lateCert, .insertKey lateKey]
            beforeRoutes := [.insertRoute lateRoute] }) 50)
          { database := target, drawn := 0 }).1 ≠ .err Table.foreignKeyFailure) ↔
      Timely (snapshots officeDatabase
        { beforeCerts := [.insertCert lateCert, .insertKey lateKey]
          beforeRoutes := [.insertRoute lateRoute] }) :=
  closed_and_restores_iff portable_officeDatabase.wellFormed
    (by simp [Commits.statements, Statement.ofCommand]) keyOrder 50

end Disturbed

end TrafficCone.InterleavedBackups
