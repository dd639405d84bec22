import TrafficCone.StoreCommands

namespace TrafficCone.CommittedStatements

open TrafficCone.Outcomes
open TrafficCone.StoreModels
open TrafficCone.IndependentLoading
open TrafficCone.DatabaseTables
open TrafficCone.BackupArchives
open TrafficCone.CertificateImport
open TrafficCone.StoreCommands

/-- The statements with which the store and the commands write. There are no transactions
around them, so each is committed by itself. -/
inductive Statement where
  | insertCert (row : Cert)
  | insertKey (row : KeyRow)
  | insertSshKey (row : SshKeyRow)
  | insertCaCert (row : CaCert)
  | insertApp (row : App)
  | insertRoute (row : RouteRow)
  | insertOrIgnoreRoute (row : RouteRow)
  | insertOrIgnoreSshRoute (row : SshRoute)
  | insertAudit (row : AuditEntry)
  | deleteCert (id : String)
  | deleteRoutes (id : String)

def execute : Statement → Effect Session StoreError Unit
  | .insertCert row => certs.insert row
  | .insertKey row => keys.insert row
  | .insertSshKey row => sshKeys.insert row
  | .insertCaCert row => caCerts.insert row
  | .insertApp row => apps.insert row
  | .insertRoute row => routes.insert row
  | .insertOrIgnoreRoute row => routes.insertOrIgnore row
  | .insertOrIgnoreSshRoute row => sshRoutes.insertOrIgnore row
  | .insertAudit row => auditLog.insert row
  | .deleteCert id => deleteFromCerts id
  | .deleteRoutes id => deleteFromRoutes id

/-- The database after a statement; one that fails changes nothing. -/
def commit (database : Database) (statement : Statement) : Database :=
  (execute statement { database := database, drawn := 0 }).2.database

def commitAll (database : Database) (statements : List Statement) : Database :=
  statements.foldl commit database

/-- A statement of the commands, other than of a restored backup. -/
def Statement.ofCommand : Statement → Bool
  | .insertSshKey _ | .insertCaCert _ | .insertOrIgnoreRoute _ | .insertOrIgnoreSshRoute _ => false
  | _ => true

section Effects

theorem snd_database_execute (statement : Statement) (session : Session) :
    (execute statement session).2.database = commit session.database statement := by
  cases statement with
  | deleteCert id => rfl
  | deleteRoutes id => rfl
  | insertOrIgnoreRoute row =>
      simp only [commit, execute, Table.insertOrIgnore_snd_database]
      rfl
  | insertOrIgnoreSshRoute row =>
      simp only [commit, execute, Table.insertOrIgnore_snd_database]
      rfl
  | _ row =>
      simp only [commit, execute, Table.insert_snd_database]
      rfl

/-- What one statement can do: an admitted row is added to its table, or a deletion takes
place, or nothing happens. -/
inductive Change (database : Database) : Statement → Database → Prop where
  | none (statement : Statement) : Change database statement database
  | cert {row : Cert} (hunique : certs.conflict database row = none) :
      Change database (.insertCert row) { database with certs := database.certs ++ [row] }
  | key {row : KeyRow} (hunique : keys.conflict database row = none)
      (hreferences : keys.references database row = true) :
      Change database (.insertKey row) { database with keys := database.keys ++ [row] }
  | sshKey {row : SshKeyRow} (hunique : sshKeys.conflict database row = none) :
      Change database (.insertSshKey row) { database with sshKeys := database.sshKeys ++ [row] }
  | caCert {row : CaCert} (hunique : caCerts.conflict database row = none) :
      Change database (.insertCaCert row) { database with caCerts := database.caCerts ++ [row] }
  | app {row : App} (hunique : apps.conflict database row = none) :
      Change database (.insertApp row) { database with apps := database.apps ++ [row] }
  | route {statement : Statement} {row : RouteRow}
      (hstatement : statement = .insertRoute row ∨ statement = .insertOrIgnoreRoute row)
      (hunique : routes.conflict database row = none)
      (hreferences : routes.references database row = true) :
      Change database statement { database with routes := database.routes ++ [row] }
  | sshRoute {row : SshRoute} (hunique : sshRoutes.conflict database row = none)
      (hreferences : sshRoutes.references database row = true) :
      Change database (.insertOrIgnoreSshRoute row)
        { database with sshRoutes := database.sshRoutes ++ [row] }
  | audit {row : AuditEntry} (hunique : auditLog.conflict database row = none) :
      Change database (.insertAudit row) { database with auditLog := database.auditLog ++ [row] }
  | deletion (id : String) : Change database (.deleteCert id) (withoutCert id database)
  | removal (id : String) :
      Change database (.deleteRoutes id)
        { database with routes := database.routes.filter fun row => !removes id row }

theorem of_insert {ρ : Type} {table : Table ρ} {row : ρ} {database : Database}
    {property : Database → Prop} (hsame : property database)
    (hadded : table.conflict database row = none → table.references database row = true →
      property (table.withRows database (table.rows database ++ [row]))) :
    property (table.insert row { database := database, drawn := 0 }).2.database := by
  rw [Table.insert_snd_database]
  split
  · rename_i h
    exact hadded h.1 h.2
  · exact hsame

theorem of_insertOrIgnore {ρ : Type} {table : Table ρ} {row : ρ} {database : Database}
    {property : Database → Prop} (hsame : property database)
    (hadded : table.conflict database row = none → table.references database row = true →
      property (table.withRows database (table.rows database ++ [row]))) :
    property (table.insertOrIgnore row { database := database, drawn := 0 }).2.database := by
  rw [Table.insertOrIgnore_snd_database, ← Table.insert_snd_database]
  exact of_insert hsame hadded

theorem change_commit (database : Database) (statement : Statement) :
    Change database statement (commit database statement) := by
  cases statement with
  | insertCert row => exact of_insert (.none _) fun hunique _ => .cert hunique
  | insertKey row => exact of_insert (.none _) .key
  | insertSshKey row => exact of_insert (.none _) fun hunique _ => .sshKey hunique
  | insertCaCert row => exact of_insert (.none _) fun hunique _ => .caCert hunique
  | insertApp row => exact of_insert (.none _) fun hunique _ => .app hunique
  | insertRoute row => exact of_insert (.none _) (.route (Or.inl rfl))
  | insertOrIgnoreRoute row => exact of_insertOrIgnore (.none _) (.route (Or.inr rfl))
  | insertOrIgnoreSshRoute row => exact of_insertOrIgnore (.none _) .sshRoute
  | insertAudit row => exact of_insert (.none _) fun hunique _ => .audit hunique
  | deleteCert id => exact .deletion id
  | deleteRoutes id => exact .removal id

end Effects

section Constraints

variable {database other : Database}

theorem referencesApp_mono (h : database.apps.Sublist other.apps) {appId : Option String}
    (hreferences : referencesApp database appId = true) : referencesApp other appId = true := by
  rw [referencesApp, Option.all_eq_true] at hreferences ⊢
  intro id hid
  have hfound := hreferences id hid
  rw [List.any_eq_true] at hfound ⊢
  obtain ⟨app, happ, hsame⟩ := hfound
  exact ⟨app, h.subset happ, hsame⟩

/-- A table stays sound when its rows stay and what they refer to is not taken away. -/
theorem wellFormed_of_added (hwell : WellFormed database)
    (hcerts : certs.Sound other) (hkeys : keys.rows other = keys.rows database)
    (hsshKeys : sshKeys.Sound other) (hcaCerts : caCerts.Sound other) (happs : apps.Sound other)
    (hroutes : routes.rows other = routes.rows database)
    (hsshRoutes : sshRoutes.rows other = sshRoutes.rows database)
    (hintegrity : integrity.Sound other) (hauditLog : auditLog.Sound other)
    (hmoreCerts : database.certs.Sublist other.certs)
    (hmoreSshKeys : database.sshKeys.Sublist other.sshKeys)
    (hmoreApps : database.apps.Sublist other.apps) : WellFormed other where
  certs := hcerts
  sshKeys := hsshKeys
  caCerts := hcaCerts
  apps := happs
  integrity := hintegrity
  auditLog := hauditLog
  keys := by
    apply Table.sound_of_sublist hwell.keys (by rw [hkeys])
    intro row _ hreferences
    simp only [keys, List.any_eq_true] at hreferences ⊢
    obtain ⟨cert, hcert, hid⟩ := hreferences
    exact ⟨cert, hmoreCerts.subset hcert, hid⟩
  routes := by
    apply Table.sound_of_sublist hwell.routes (by rw [hroutes])
    intro row _ hreferences
    simp only [routes, Bool.and_eq_true, List.any_eq_true] at hreferences ⊢
    obtain ⟨⟨cert, hcert, hid⟩, happ⟩ := hreferences
    exact ⟨⟨cert, hmoreCerts.subset hcert, hid⟩, referencesApp_mono hmoreApps happ⟩
  sshRoutes := by
    apply Table.sound_of_sublist hwell.sshRoutes (by rw [hsshRoutes])
    intro row _ hreferences
    simp only [sshRoutes, Bool.and_eq_true, List.any_eq_true] at hreferences ⊢
    obtain ⟨⟨key, hkey, hid⟩, happ⟩ := hreferences
    exact ⟨⟨key, hmoreSshKeys.subset hkey, hid⟩, referencesApp_mono hmoreApps happ⟩

/-- Deleting a certificate with what hangs on it leaves no reference behind. -/
theorem wellFormed_withoutCert (hwell : WellFormed database) (id : String) :
    WellFormed (withoutCert id database) where
  certs := Table.sound_of_sublist hwell.certs List.filter_sublist fun _ _ _ => rfl
  sshKeys := hwell.sshKeys
  caCerts := hwell.caCerts
  apps := hwell.apps
  sshRoutes := hwell.sshRoutes
  integrity := hwell.integrity
  auditLog := hwell.auditLog
  keys := by
    refine Table.sound_of_sublist hwell.keys List.filter_sublist ?_
    intro row hrow hreferences
    simp only [keys, withoutCert, List.mem_filter, decide_eq_true_eq] at hrow
    simp only [keys, withoutCert, List.any_eq_true, decide_eq_true_eq] at hreferences ⊢
    obtain ⟨cert, hcert, hid⟩ := hreferences
    refine ⟨cert, List.mem_filter.mpr ⟨hcert, ?_⟩, hid⟩
    simpa [hid] using hrow.2
  routes := by
    refine Table.sound_of_sublist hwell.routes List.filter_sublist ?_
    intro row hrow hreferences
    simp only [routes, withoutCert, List.mem_filter, decide_eq_true_eq] at hrow
    simp only [routes, withoutCert, Bool.and_eq_true, List.any_eq_true, decide_eq_true_eq]
      at hreferences ⊢
    obtain ⟨⟨cert, hcert, hid⟩, happ⟩ := hreferences
    refine ⟨⟨cert, List.mem_filter.mpr ⟨hcert, ?_⟩, hid⟩, happ⟩
    simpa [hid] using hrow.2

/-- Every statement keeps the constraints that the schema declares. -/
theorem wellFormed_of_change {statement : Statement} (hwell : WellFormed database)
    (hchange : Change database statement other) : WellFormed other := by
  cases hchange with
  | none => exact hwell
  | cert hunique =>
      exact wellFormed_of_added hwell
        (Table.sound_withRows_append hwell.certs hunique rfl)
        rfl hwell.sshKeys hwell.caCerts hwell.apps rfl rfl hwell.integrity hwell.auditLog
        (List.sublist_append_left _ _) (List.Sublist.refl _) (List.Sublist.refl _)
  | sshKey hunique =>
      exact wellFormed_of_added hwell hwell.certs rfl
        (Table.sound_withRows_append hwell.sshKeys hunique rfl)
        hwell.caCerts hwell.apps rfl rfl hwell.integrity hwell.auditLog
        (List.Sublist.refl _) (List.sublist_append_left _ _) (List.Sublist.refl _)
  | app hunique =>
      exact wellFormed_of_added hwell hwell.certs rfl hwell.sshKeys hwell.caCerts
        (Table.sound_withRows_append hwell.apps hunique rfl)
        rfl rfl hwell.integrity hwell.auditLog
        (List.Sublist.refl _) (List.Sublist.refl _) (List.sublist_append_left _ _)
  | key hunique hreferences =>
      have hkeys := Table.sound_withRows_append hwell.keys hunique hreferences
      exact { hwell with keys := hkeys }
  | caCert hunique =>
      have hcaCerts := Table.sound_withRows_append hwell.caCerts hunique rfl
      exact { hwell with caCerts := hcaCerts }
  | route _ hunique hreferences =>
      have hroutes := Table.sound_withRows_append hwell.routes hunique hreferences
      exact { hwell with routes := hroutes }
  | sshRoute hunique hreferences =>
      have hsshRoutes := Table.sound_withRows_append hwell.sshRoutes hunique hreferences
      exact { hwell with sshRoutes := hsshRoutes }
  | audit hunique =>
      have hauditLog := Table.sound_withRows_append hwell.auditLog hunique rfl
      exact { hwell with auditLog := hauditLog }
  | deletion id => exact wellFormed_withoutCert hwell id
  | removal id =>
      have hroutes : routes.Sound { database with
          routes := database.routes.filter fun row => !removes id row } :=
        Table.sound_of_sublist hwell.routes List.filter_sublist fun _ _ h => h
      exact { hwell with routes := hroutes }

theorem wellFormed_commitAll (hwell : WellFormed database) (statements : List Statement) :
    WellFormed (commitAll database statements) := by
  induction statements generalizing database with
  | nil => exact hwell
  | cons statement statements ih =>
      exact ih (wellFormed_of_change hwell (change_commit database statement))

end Constraints

section Calls

variable {α β : Type} {kind : Statement → Bool}

/-- Whatever the call does to the database, it does by statements of the kind. So what
other processes commit while they work is a list of such statements, at any moment. -/
def WritesBy (kind : Statement → Bool) (call : Effect Session StoreError α) : Prop :=
  ∀ session, ∃ statements, (∀ statement ∈ statements, kind statement = true) ∧
    (call session).2.database = commitAll session.database statements

theorem commitAll_append (database : Database) (first second : List Statement) :
    commitAll database (first ++ second) = commitAll (commitAll database first) second :=
  List.foldl_append

theorem writesBy_execute {statement : Statement} (h : kind statement = true) :
    WritesBy kind (execute statement) := by
  intro session
  refine ⟨[statement], by simpa using h, ?_⟩
  exact snd_database_execute statement session

theorem writesBy_of_unchanged {call : Effect Session StoreError α}
    (h : ∀ session, (call session).2.database = session.database) : WritesBy kind call :=
  fun session => ⟨[], by simp, h session⟩

theorem WritesBy.bind {first : Effect Session StoreError α}
    {next : α → Effect Session StoreError β} (hfirst : WritesBy kind first)
    (hnext : ∀ value, WritesBy kind (next value)) : WritesBy kind (first >>= next) := by
  intro session
  obtain ⟨statements, hkind, hdatabase⟩ := hfirst session
  rcases hcall : first session with ⟨value | error | _, session'⟩
  · rw [hcall] at hdatabase
    obtain ⟨more, hmore, hfinal⟩ := hnext value session'
    refine ⟨statements ++ more, ?_, ?_⟩
    · intro statement hstatement
      rcases List.mem_append.mp hstatement with hbefore | hafter
      · exact hkind statement hbefore
      · exact hmore statement hafter
    · rw [Effect.bind_of_ok hcall, hfinal, hdatabase, commitAll_append]
  · rw [hcall] at hdatabase
    exact ⟨statements, hkind, by rw [Effect.bind_of_err hcall, hdatabase]⟩
  · rw [hcall] at hdatabase
    exact ⟨statements, hkind, by rw [Effect.bind_of_panicked hcall, hdatabase]⟩

theorem writesBy_loadAll {step : α → Effect Session StoreError Nat}
    (hstep : ∀ item, WritesBy kind (step item)) (items : List α) :
    WritesBy kind (loadAll step items) := by
  induction items with
  | nil => exact writesBy_of_unchanged fun _ => rfl
  | cons item rest ih =>
      apply (hstep item).bind
      intro counted
      exact ih.bind fun more => writesBy_of_unchanged fun _ => rfl

theorem writesBy_unlessExists (existing : Database → Bool)
    {insert : Effect Session StoreError Unit} (hinsert : WritesBy kind insert) :
    WritesBy kind (unlessExists existing insert) := by
  intro session
  rw [unlessExists]
  split
  · exact ⟨[], by simp, rfl⟩
  · exact hinsert.bind (fun _ => writesBy_of_unchanged fun _ => rfl) session

theorem writesBy_newId (host : Host) : WritesBy kind (newId host) :=
  writesBy_of_unchanged fun _ => rfl

theorem writesBy_insertImported (host : Host) (certDer : Bytes) (label : String)
    (metadata : CertMeta) (algorithm : KeyAlgorithm) (encrypted : Bytes × Bytes × Bytes) :
    WritesBy Statement.ofCommand
      (insertImported host certDer label metadata algorithm encrypted) := by
  apply (writesBy_newId host).bind
  intro certId
  apply (writesBy_newId host).bind
  intro keyId
  apply (@writesBy_execute _ (.insertCert _) (by rfl)).bind
  intro _
  apply (@writesBy_execute _ (.insertKey _) (by rfl)).bind
  intro _
  apply (writesBy_newId host).bind
  intro auditId
  apply (@writesBy_execute _ (.insertAudit _) (by rfl)).bind
  intro _
  exact writesBy_of_unchanged fun _ => rfl

theorem writesBy_deleteRecorded (host : Host) (certId label : String) :
    WritesBy Statement.ofCommand (deleteRecorded host certId label) := by
  apply (@writesBy_execute _ (.deleteCert certId) (by rfl)).bind
  intro _
  apply (writesBy_newId host).bind
  intro id
  exact @writesBy_execute _ (.insertAudit _) (by rfl)

theorem writesBy_insertApp (host : Host) (label exe hash : String) :
    WritesBy Statement.ofCommand (insertApp host label exe hash) := by
  apply (writesBy_newId host).bind
  intro id
  exact @writesBy_execute _ (.insertApp _) (by rfl)

theorem writesBy_insertRoute (host : Host) (certId : String) (appId : Option String)
    (request : RouteRequest) :
    WritesBy Statement.ofCommand (insertRoute host certId appId request) := by
  apply (writesBy_newId host).bind
  intro id
  apply (@writesBy_execute _ (.insertRoute _) (by rfl)).bind
  intro _
  exact writesBy_of_unchanged fun _ => rfl

theorem writesBy_deleteFromRoutes (id : String) :
    WritesBy Statement.ofCommand (deleteFromRoutes id) :=
  @writesBy_execute _ (.deleteRoutes id) (by rfl)

theorem writesBy_restorePayload (host : Host) (payload : BackupPayload) :
    WritesBy (fun _ => true) (restorePayload host payload) := by
  rw [restorePayload]
  apply (writesBy_loadAll (fun entry => writesBy_unlessExists _
    (@writesBy_execute _ (.insertCaCert (caCertRow entry)) (by rfl))) _).bind
  intro caCertCount
  apply (writesBy_loadAll (fun entry => writesBy_unlessExists _ ?_) _).bind
  · intro certCount
    apply (writesBy_loadAll (fun entry => writesBy_unlessExists _
      (@writesBy_execute _ (.insertSshKey (sshKeyRow entry)) (by rfl))) _).bind
    intro sshKeyCount
    apply (writesBy_loadAll (fun entry => writesBy_unlessExists _
      (@writesBy_execute _ (.insertApp (appRow entry)) (by rfl))) _).bind
    intro appCount
    apply (writesBy_loadAll (fun entry =>
      (@writesBy_execute _ (.insertOrIgnoreRoute (routeRow entry)) (by rfl)).bind fun _ =>
        writesBy_of_unchanged fun _ => rfl) _).bind
    intro routeCount
    apply (writesBy_loadAll (fun entry =>
      (@writesBy_execute _ (.insertOrIgnoreSshRoute (sshRouteRow entry)) (by rfl)).bind fun _ =>
        writesBy_of_unchanged fun _ => rfl) _).bind
    intro sshRouteCount
    apply (writesBy_newId host).bind
    intro id
    apply (@writesBy_execute _ (.insertAudit _) (by rfl)).bind
    intro _
    exact writesBy_of_unchanged fun _ => rfl
  · apply WritesBy.bind (writesBy_of_unchanged fun _ => rfl)
    intro certDer
    apply (@writesBy_execute _ (.insertCert (certRow entry certDer)) (by rfl)).bind
    intro _
    apply (writesBy_newId host).bind
    intro id
    exact @writesBy_execute _ (.insertKey (keyRow entry id)) (by rfl)

end Calls

end TrafficCone.CommittedStatements
