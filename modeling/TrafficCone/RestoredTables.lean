import Mathlib.Data.List.Range
import TrafficCone.BackupRoundTrip
import TrafficCone.FirstComers

namespace TrafficCone.RestoredTables

open TrafficCone.Outcomes
open TrafficCone.StoreModels
open TrafficCone.HexadecimalText
open TrafficCone.IndependentLoading
open TrafficCone.FirstComers
open TrafficCone.DatabaseTables
open TrafficCone.TableLoading
open TrafficCone.BackupArchives
open TrafficCone.BackupRestoring
open TrafficCone.BackupRoundTrip

section Tables

variable {ρ α : Type} {table : Table ρ} {column : String × (ρ → String)} {row : α → ρ}
  {step : α → Effect Session StoreError Nat}

def columnOf (table : Table ρ) (column : String × (ρ → String)) (session : Session) :
    List String :=
  (table.rows session.database).map column.2

theorem present_iff {session : Session} {entry : α} :
    present table column row session entry = true ↔
      column.2 (row entry) ∈ columnOf table column session := by
  simp [present, columnOf]

theorem gathers_guarded
    (hstep : ∀ entry session, step entry session =
      if present table column row session entry then (.ok 0, session)
      else (table.insert (row entry) >>= fun _ => pure 1 : Effect Session StoreError Nat)
        session) :
    Gathers step (columnOf table column) (fun entry => column.2 (row entry)) (add table row)
      (fun _ => True) 0 where
  passes entry session hpresent := by
    rw [hstep, if_pos (present_iff.mpr hpresent)]
  takes entry session counted session' habsent hcall := by
    rw [hstep, if_neg (mt present_iff.mp habsent)] at hcall
    obtain ⟨_, middle, hinserted, hcounted⟩ := Effect.bind_eq_ok_iff.mp hcall
    obtain ⟨hone, rfl⟩ := Prod.mk.inj hcounted
    obtain ⟨-, -, rfl⟩ := table.insert_eq_ok_iff.mp hinserted
    exact ⟨(Outcome.ok.inj hone).symm, rfl, trivial⟩
  keys_add session entry := by
    rw [columnOf, add, rows_append, List.map_append]
    rfl

theorem gathers_ignoring (hunique : table.unique = [column])
    (hstep : ∀ entry, step entry = (do
      table.insertOrIgnore (row entry)
      pure 1)) :
    Gathers step (columnOf table column) (fun entry => column.2 (row entry)) (add table row)
      (fun _ => True) 1 where
  passes entry session hpresent := by
    rw [hstep, Effect.bind_of_ok (insertOrIgnore_of_present hunique (present_iff.mpr hpresent))]
    rfl
  takes entry session counted session' habsent hcall := by
    rw [hstep] at hcall
    obtain ⟨_, middle, hinserted, hcounted⟩ := Effect.bind_eq_ok_iff.mp hcall
    obtain ⟨hone, rfl⟩ := Prod.mk.inj hcounted
    refine ⟨(Outcome.ok.inj hone).symm, ?_, trivial⟩
    rw [insertOrIgnore_of_absent hunique (mt present_iff.mp habsent)] at hinserted
    split at hinserted
    · exact (Prod.mk.inj hinserted).2.symm
    · cases (Prod.mk.inj hinserted).1
  keys_add session entry := by
    rw [columnOf, add, rows_append, List.map_append]
    rfl

theorem foldl_add_eq (entries : List α) (session : Session) :
    entries.foldl (add table row) session =
      { session with
        database :=
          table.withRows session.database (table.rows session.database ++ entries.map row) } := by
  induction entries generalizing session with
  | nil =>
      rw [List.foldl_nil, List.map_nil, List.append_nil, table.withRows_rows]
  | cons entry rest ih =>
      rw [List.foldl_cons, ih, add, rows_append, List.map_cons]
      simp only [Table.append, table.withRows_withRows, List.append_assoc, List.singleton_append]

end Tables

section Certificates

variable {host : Host}

/-- The rows of the keys of new certificates, with the ids that are drawn one after another. -/
def drawnKeys (host : Host) (drawn : Nat) (entries : List BackupCert) : List KeyRow :=
  entries.mapIdx fun index entry => keyRow entry (host.newId (drawn + index))

theorem drawnKeys_cons (drawn : Nat) (entry : BackupCert) (rest : List BackupCert) :
    drawnKeys host drawn (entry :: rest) =
      keyRow entry (host.newId drawn) :: drawnKeys host (drawn + 1) rest := by
  rw [drawnKeys, drawnKeys, List.mapIdx_cons]
  simp only [Nat.add_zero, Nat.add_assoc, Nat.add_comm 1]

theorem foldl_addCert_eq (entries : List BackupCert) (session : Session) :
    entries.foldl (addCert host) session =
      { database :=
          { session.database with
            certs := session.database.certs ++ entries.map restoredCert
            keys := session.database.keys ++ drawnKeys host session.drawn entries }
        drawn := session.drawn + entries.length } := by
  induction entries generalizing session with
  | nil => simp [drawnKeys]
  | cons entry rest ih =>
      rw [List.foldl_cons, ih, drawnKeys_cons, List.length_cons, List.map_cons]
      simp [addCert, Table.append, certs, keys, Nat.add_comm, Nat.add_left_comm]

theorem gathers_restoreCert (host : Host) :
    Gathers (restoreCert host) (columnOf certs ("fingerprint", (·.fingerprint)))
      (fun entry => entry.fingerprint) (addCert host)
      (fun entry => ∃ bytes, hexDecode entry.certDer = .ok bytes) 0 where
  passes entry session hpresent := by
    have hthere : (session.database.certs.any fun row => row.fingerprint = entry.fingerprint) =
        true := by
      simpa [columnOf, certs] using hpresent
    rw [restoreCert, unlessExists, if_pos hthere]
  takes entry session counted session' habsent hcall := by
    have hmissing : ¬ (session.database.certs.any fun row =>
        row.fingerprint = entry.fingerprint) = true := by
      simpa [columnOf, certs] using habsent
    rw [restoreCert, unlessExists, if_neg hmissing] at hcall
    obtain ⟨_, middle, hinserted, hcounted⟩ := Effect.bind_eq_ok_iff.mp hcall
    obtain ⟨hone, rfl⟩ := Prod.mk.inj hcounted
    obtain ⟨hdecoded, rfl⟩ := of_insertCertAndKey_eq_ok hinserted
    exact ⟨(Outcome.ok.inj hone).symm, rfl, hdecoded⟩
  keys_add session entry := by
    change (session.database.certs ++ [restoredCert entry]).map (·.fingerprint) = _
    rw [List.map_append]
    rfl

end Certificates

section Payloads

variable (host : Host) (payload : BackupPayload) (database : Database)

def newCaCerts : List BackupCaCert :=
  newcomers (·.fingerprint) (database.caCerts.map (·.fingerprint)) payload.caCerts

def newCerts : List BackupCert :=
  newcomers (·.fingerprint) (database.certs.map (·.fingerprint)) payload.certs

def newSshKeys : List BackupSshKey :=
  newcomers (·.id) (database.sshKeys.map (·.id)) payload.sshKeys

def newApps : List BackupApp :=
  newcomers (·.exePath) (database.apps.map (·.exePath)) payload.apps

def newRoutes : List BackupRoute :=
  newcomers (·.id) (database.routes.map (·.id)) payload.routes

def newSshRoutes : List BackupSshRoute :=
  newcomers (·.id) (database.sshRoutes.map (·.id)) payload.sshRoutes

/-- The tables with the new entries at their ends. -/
def extended (drawn : Nat) : Database :=
  { database with
    caCerts := database.caCerts ++ (newCaCerts payload database).map caCertRow
    certs := database.certs ++ (newCerts payload database).map restoredCert
    keys := database.keys ++ drawnKeys host drawn (newCerts payload database)
    sshKeys := database.sshKeys ++ (newSshKeys payload database).map sshKeyRow
    apps := database.apps ++ (newApps payload database).map appRow
    routes := database.routes ++ (newRoutes payload database).map routeRow
    sshRoutes := database.sshRoutes ++ (newSshRoutes payload database).map sshRouteRow }

/-- The counters of a restore: a route counts even if it is not new. -/
def counters : RestoreResult where
  certs := (newCerts payload database).length
  sshKeys := (newSshKeys payload database).length
  caCerts := (newCaCerts payload database).length
  apps := (newApps payload database).length
  routes := payload.routes.length
  sshRoutes := payload.sshRoutes.length

end Payloads

section Loops

theorem gathers_restoreCaCert :
    Gathers restoreCaCert (columnOf caCerts ("fingerprint", (·.fingerprint)))
      (fun entry => entry.fingerprint) (add caCerts caCertRow) (fun _ => True) 0 :=
  @gathers_guarded _ _ caCerts ("fingerprint", (·.fingerprint)) caCertRow _ fun _ _ => rfl

theorem gathers_restoreSshKey :
    Gathers restoreSshKey (columnOf sshKeys ("id", (·.id))) (fun entry => entry.id)
      (add sshKeys sshKeyRow) (fun _ => True) 0 :=
  @gathers_guarded _ _ sshKeys ("id", (·.id)) sshKeyRow _ fun _ _ => rfl

theorem gathers_restoreApp :
    Gathers restoreApp (columnOf apps ("exe_path", (·.exePath))) (fun entry => entry.exePath)
      (add apps appRow) (fun _ => True) 0 :=
  @gathers_guarded _ _ apps ("exe_path", (·.exePath)) appRow _ fun _ _ => rfl

theorem gathers_restoreRoute :
    Gathers restoreRoute (columnOf routes ("id", (·.id))) (fun entry => entry.id)
      (add routes routeRow) (fun _ => True) 1 :=
  gathers_ignoring rfl fun _ => rfl

theorem gathers_restoreSshRoute :
    Gathers restoreSshRoute (columnOf sshRoutes ("id", (·.id))) (fun entry => entry.id)
      (add sshRoutes sshRouteRow) (fun _ => True) 1 :=
  gathers_ignoring rfl fun _ => rfl

variable {host : Host} {payload : BackupPayload} {start : Database} {session session' : Session}
  {counted : Nat}

theorem load_caCerts (hstart : session.database.caCerts = start.caCerts)
    (hrun : loadAll restoreCaCert payload.caCerts session = (.ok counted, session')) :
    session' =
        { session with
          database :=
            { session.database with
              caCerts := session.database.caCerts ++ (newCaCerts payload start).map caCertRow } } ∧
      counted = (newCaCerts payload start).length := by
  obtain ⟨rfl, rfl, -⟩ := gathers_restoreCaCert.of_loadAll hrun
  rw [foldl_add_eq, newCaCerts, ← hstart, Nat.zero_mul]
  exact ⟨rfl, rfl⟩

theorem load_certs (hstart : session.database.certs = start.certs)
    (hrun : loadAll (restoreCert host) payload.certs session = (.ok counted, session')) :
    session' =
        { database :=
            { session.database with
              certs := session.database.certs ++ (newCerts payload start).map restoredCert
              keys := session.database.keys ++
                drawnKeys host session.drawn (newCerts payload start) }
          drawn := session.drawn + (newCerts payload start).length } ∧
      counted = (newCerts payload start).length ∧
        ∀ entry ∈ newCerts payload start, ∃ bytes, hexDecode entry.certDer = .ok bytes := by
  obtain ⟨rfl, rfl, hdecoded⟩ := (gathers_restoreCert host).of_loadAll hrun
  rw [foldl_addCert_eq, newCerts, ← hstart, Nat.zero_mul]
  exact ⟨rfl, rfl, hdecoded⟩

theorem load_sshKeys (hstart : session.database.sshKeys = start.sshKeys)
    (hrun : loadAll restoreSshKey payload.sshKeys session = (.ok counted, session')) :
    session' =
        { session with
          database :=
            { session.database with
              sshKeys := session.database.sshKeys ++ (newSshKeys payload start).map sshKeyRow } } ∧
      counted = (newSshKeys payload start).length := by
  obtain ⟨rfl, rfl, -⟩ := gathers_restoreSshKey.of_loadAll hrun
  rw [foldl_add_eq, newSshKeys, ← hstart, Nat.zero_mul]
  exact ⟨rfl, rfl⟩

theorem load_apps (hstart : session.database.apps = start.apps)
    (hrun : loadAll restoreApp payload.apps session = (.ok counted, session')) :
    session' =
        { session with
          database :=
            { session.database with
              apps := session.database.apps ++ (newApps payload start).map appRow } } ∧
      counted = (newApps payload start).length := by
  obtain ⟨rfl, rfl, -⟩ := gathers_restoreApp.of_loadAll hrun
  rw [foldl_add_eq, newApps, ← hstart, Nat.zero_mul]
  exact ⟨rfl, rfl⟩

theorem load_routes (hstart : session.database.routes = start.routes)
    (hrun : loadAll restoreRoute payload.routes session = (.ok counted, session')) :
    session' =
        { session with
          database :=
            { session.database with
              routes := session.database.routes ++ (newRoutes payload start).map routeRow } } ∧
      counted = payload.routes.length := by
  obtain ⟨rfl, rfl, -⟩ := gathers_restoreRoute.of_loadAll hrun
  rw [Nat.one_mul, length_newcomers_add_length_repeats, foldl_add_eq, newRoutes, ← hstart]
  exact ⟨rfl, rfl⟩

theorem load_sshRoutes (hstart : session.database.sshRoutes = start.sshRoutes)
    (hrun : loadAll restoreSshRoute payload.sshRoutes session = (.ok counted, session')) :
    session' =
        { session with
          database :=
            { session.database with
              sshRoutes := session.database.sshRoutes ++
                (newSshRoutes payload start).map sshRouteRow } } ∧
      counted = payload.sshRoutes.length := by
  obtain ⟨rfl, rfl, -⟩ := gathers_restoreSshRoute.of_loadAll hrun
  rw [Nat.one_mul, length_newcomers_add_length_repeats, foldl_add_eq, newSshRoutes, ← hstart]
  exact ⟨rfl, rfl⟩

/-- A restore that goes through adds the new entries and nothing else, whatever the payload
is, and records itself. -/
theorem restorePayload_adds {result : RestoreResult}
    (h : restorePayload host payload session = (.ok result, session')) :
    result = counters payload session.database ∧
      session'.database =
        { extended host payload session.database session.drawn with
          auditLog := session.database.auditLog ++ [restoredEntry host result
            (host.newId (session.drawn + (newCerts payload session.database).length))] } ∧
      ∀ entry ∈ newCerts payload session.database,
        ∃ bytes, hexDecode entry.certDer = .ok bytes := by
  rw [restorePayload] at h
  obtain ⟨_, first, hrun, h⟩ := Effect.bind_eq_ok_iff.mp h
  obtain ⟨hfirst, rfl⟩ := @load_caCerts payload session.database _ _ _ rfl hrun
  obtain ⟨_, second, hrun, h⟩ := Effect.bind_eq_ok_iff.mp h
  obtain ⟨hsecond, rfl, hdecoded⟩ :=
    @load_certs host payload session.database _ _ _ (by rw [hfirst]) hrun
  obtain ⟨_, third, hrun, h⟩ := Effect.bind_eq_ok_iff.mp h
  obtain ⟨hthird, rfl⟩ :=
    @load_sshKeys payload session.database _ _ _ (by rw [hsecond, hfirst]) hrun
  obtain ⟨_, fourth, hrun, h⟩ := Effect.bind_eq_ok_iff.mp h
  obtain ⟨hfourth, rfl⟩ :=
    @load_apps payload session.database _ _ _ (by rw [hthird, hsecond, hfirst]) hrun
  obtain ⟨_, fifth, hrun, h⟩ := Effect.bind_eq_ok_iff.mp h
  obtain ⟨hfifth, rfl⟩ :=
    @load_routes payload session.database _ _ _ (by rw [hfourth, hthird, hsecond, hfirst]) hrun
  obtain ⟨_, sixth, hrun, h⟩ := Effect.bind_eq_ok_iff.mp h
  obtain ⟨hsixth, rfl⟩ := @load_sshRoutes payload session.database _ _ _
    (by rw [hfifth, hfourth, hthird, hsecond, hfirst]) hrun
  rw [recordRestored] at h
  obtain ⟨_, _, hid, h⟩ := Effect.bind_eq_ok_iff.mp h
  obtain ⟨hdrawn, rfl⟩ := Prod.mk.inj hid
  obtain rfl := Outcome.ok.inj hdrawn
  obtain ⟨_, _, hinserted, hlast⟩ := Effect.bind_eq_ok_iff.mp h
  obtain ⟨hresult, rfl⟩ := Prod.mk.inj hlast
  obtain rfl := Outcome.ok.inj hresult
  obtain ⟨-, -, rfl⟩ := auditLog.insert_eq_ok_iff.mp hinserted
  refine ⟨rfl, ?_, hdecoded⟩
  simp only [hsixth, hfifth, hfourth, hthird, hsecond, hfirst, Table.append, auditLog, extended]

end Loops

section Backups

variable {codec : BackupCodec} {host : Host} {password : String} {backup : Bytes}
  {payload : BackupPayload} {database restored : Database} {master : Bytes}
  {result : RestoreResult}

/-- The file is a backup of this payload under this password. -/
def Reads (codec : BackupCodec) (password : String) (backup : Bytes) (payload : BackupPayload) :
    Prop :=
  ∃ text, codec.decrypt password backup = .ok text ∧ codec.fromSlice text = .ok payload

theorem restoreBackup_ok_iff {store : Store} (hread : Reads codec password backup payload) :
    restoreBackup codec host backup password store = (.ok result, .unlocked restored master) ↔
      ∃ database session, store = .unlocked database master ∧
        restorePayload host payload { database := database, drawn := 0 } = (.ok result, session) ∧
          session.database = restored := by
  rw [restoreBackup_eq hread]
  cases store with
  | locked => simp [withConn]
  | unlocked database other =>
      rw [withConn_eq_ok_iff]
      constructor
      · rintro ⟨session, hrun, hstore⟩
        obtain ⟨rfl, rfl⟩ := Store.unlocked.inj hstore
        exact ⟨database, session, rfl, hrun, rfl⟩
      · rintro ⟨_, session, hstore, hrun, rfl⟩
        obtain ⟨rfl, rfl⟩ := Store.unlocked.inj hstore
        exact ⟨session, hrun, rfl⟩

theorem restoreBackup_of_restorePayload (hread : Reads codec password backup payload)
    (h : (restorePayload host payload { database := database, drawn := 0 }).1 = .ok result) :
    restoreBackup codec host backup password (.unlocked database master) =
      (.ok result,
        .unlocked (restorePayload host payload { database := database, drawn := 0 }).2.database
          master) :=
  (restoreBackup_ok_iff hread).mpr ⟨database, _, rfl, Effect.eq_of_fst h, rfl⟩

theorem restoreBackup_adds (hread : Reads codec password backup payload)
    (h : restoreBackup codec host backup password (.unlocked database master) =
      (.ok result, .unlocked restored master)) :
    result = counters payload database ∧
      restored =
        { extended host payload database 0 with
          auditLog := database.auditLog ++
            [restoredEntry host result (host.newId (newCerts payload database).length)] } ∧
      ∀ entry ∈ newCerts payload database, ∃ bytes, hexDecode entry.certDer = .ok bytes := by
  obtain ⟨_, session, hstore, hrun, rfl⟩ := (restoreBackup_ok_iff hread).mp h
  obtain ⟨rfl, -⟩ := Store.unlocked.inj hstore
  have hadds := restorePayload_adds hrun
  rwa [Nat.zero_add] at hadds

end Backups

end TrafficCone.RestoredTables
