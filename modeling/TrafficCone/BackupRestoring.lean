import TrafficCone.BackupArchives
import TrafficCone.TableLoading

namespace TrafficCone.BackupRestoring

open TrafficCone.Outcomes
open TrafficCone.StoreModels
open TrafficCone.HexadecimalText
open TrafficCone.IndependentLoading
open TrafficCone.DatabaseTables
open TrafficCone.TableLoading
open TrafficCone.BackupArchives

/-- The ids still to be drawn differ from each other and from those in use. -/
structure FreshIds (host : Host) (session : Session) : Prop where
  distinct : Function.Injective host.newId
  notKeys : ∀ index, session.drawn ≤ index →
    host.newId index ∉ session.database.keys.map (·.id)
  notAudit : ∀ index, session.drawn ≤ index →
    host.newId index ∉ session.database.auditLog.map (·.id)

theorem FreshIds.congr {host : Host} {session session' : Session}
    (hfresh : FreshIds host session)
    (h : (session'.drawn, session'.database.keys, session'.database.auditLog) =
      (session.drawn, session.database.keys, session.database.auditLog)) :
    FreshIds host session' := by
  obtain ⟨hdrawn, hkeys, haudit⟩ : session'.drawn = session.drawn ∧
      session'.database.keys = session.database.keys ∧
        session'.database.auditLog = session.database.auditLog := by
    simpa using h
  exact
    { distinct := hfresh.distinct
      notKeys := by rw [hdrawn, hkeys]; exact hfresh.notKeys
      notAudit := by rw [hdrawn, haudit]; exact hfresh.notAudit }

section Certificates

def restoredCert (entry : BackupCert) : Cert := certRow entry (decodeOrEmpty entry.certDer)

def addCert (host : Host) (session : Session) (entry : BackupCert) : Session :=
  keys.append (keyRow entry (host.newId session.drawn))
    { certs.append (restoredCert entry) session with drawn := session.drawn + 1 }

def certPresent : Session → BackupCert → Bool :=
  present certs ("fingerprint", (·.fingerprint)) restoredCert

def TakesCert (session : Session) (entry : BackupCert) : Prop :=
  certPresent session entry = true ∨
    (Insertable certs restoredCert session entry ∧ ∃ bytes, hexDecode entry.certDer = .ok bytes)

theorem certRow_of_decoded {entry : BackupCert} {bytes : Bytes}
    (h : hexDecode entry.certDer = .ok bytes) : certRow entry bytes = restoredCert entry := by
  rw [restoredCert, decodeOrEmpty, h]

theorem insertCertAndKey_of_insertable {host : Host} {session : Session} {entry : BackupCert}
    (hfresh : FreshIds host session) (hinsertable : Insertable certs restoredCert session entry)
    (hhex : ∃ bytes, hexDecode entry.certDer = .ok bytes) :
    insertCertAndKey host entry session = (.ok (), addCert host session entry) := by
  obtain ⟨bytes, hbytes⟩ := hhex
  have hcert := certs.insert_of_admitted hinsertable.1 hinsertable.2
  have hkeyUnused : keys.conflict (certs.append (restoredCert entry) session).database
      (keyRow entry (host.newId session.drawn)) = none := by
    rw [Table.conflict_eq_none_iff]
    simpa [keys, keyRow, certs, Table.append] using hfresh.notKeys session.drawn le_rfl
  have hkeyRefers : keys.references (certs.append (restoredCert entry) session).database
      (keyRow entry (host.newId session.drawn)) = true := by
    simp [keys, keyRow, certs, Table.append, restoredCert, certRow]
  unfold insertCertAndKey
  rw [hbytes, Outcome.ofExcept_ok, Outcome.mapErr_ok, Effect.lift_ok_bind,
    certRow_of_decoded hbytes, Effect.bind_of_ok hcert,
    Effect.bind_of_ok (show newId host _ = _ from rfl)]
  exact keys.insert_of_admitted hkeyUnused hkeyRefers

theorem addCert_fresh {host : Host} {session : Session} (hfresh : FreshIds host session)
    (entry : BackupCert) : FreshIds host (addCert host session entry) where
  distinct := hfresh.distinct
  notAudit index hindex := hfresh.notAudit index (Nat.le_of_succ_le hindex)
  notKeys index hindex := by
    have hlater : session.drawn < index := hindex
    have hother : host.newId index ≠ host.newId session.drawn := fun h =>
      absurd (hfresh.distinct h) (Nat.ne_of_gt hlater)
    have hunused := hfresh.notKeys index (Nat.le_of_lt hlater)
    simpa [addCert, Table.append, keys, keyRow, certs, hother] using hunused

theorem insertCertAndKey_refused {host : Host} {session : Session} {entry : BackupCert}
    (h : ¬ (Insertable certs restoredCert session entry ∧
      ∃ bytes, hexDecode entry.certDer = .ok bytes)) :
    ∃ error session', insertCertAndKey host entry session = (.err error, session') := by
  unfold insertCertAndKey
  cases hhex : hexDecode entry.certDer with
  | error error =>
      exact ⟨_, session, Effect.bind_of_err (show Effect.lift _ session = _ from rfl)⟩
  | ok bytes =>
      have hrefused : ¬ Insertable certs restoredCert session entry :=
        fun hinsertable => h ⟨hinsertable, bytes, hhex⟩
      obtain ⟨error, hinsert⟩ := certs.insert_of_refused hrefused
      refine ⟨error, session, ?_⟩
      rw [Outcome.ofExcept_ok, Outcome.mapErr_ok, Effect.lift_ok_bind,
        certRow_of_decoded hhex, Effect.bind_of_err hinsert]

theorem of_insertCertAndKey_eq_ok {host : Host} {session session' : Session}
    {entry : BackupCert} (h : insertCertAndKey host entry session = (.ok (), session')) :
    (∃ bytes, hexDecode entry.certDer = .ok bytes) ∧ session' = addCert host session entry := by
  rw [insertCertAndKey] at h
  obtain ⟨certDer, hdecoded, h⟩ := Effect.lift_bind_eq_ok_iff.mp h
  obtain ⟨_, stored, hcert, h⟩ := Effect.bind_eq_ok_iff.mp h
  obtain ⟨id, _, hid, hkey⟩ := Effect.bind_eq_ok_iff.mp h
  obtain ⟨hdrawn, rfl⟩ := Prod.mk.inj hid
  obtain rfl := Outcome.ok.inj hdrawn
  obtain ⟨-, -, rfl⟩ := certs.insert_eq_ok_iff.mp hcert
  obtain ⟨-, -, rfl⟩ := keys.insert_eq_ok_iff.mp hkey
  cases hhex : hexDecode entry.certDer with
  | error error =>
      rw [hhex] at hdecoded
      cases hdecoded
  | ok bytes =>
      rw [hhex] at hdecoded
      obtain rfl : bytes = certDer := Outcome.ok.inj hdecoded
      rw [addCert, certRow_of_decoded hhex]
      exact ⟨⟨bytes, rfl⟩, rfl⟩

theorem loads_restoreCert (host : Host) :
    Loads (restoreCert host) (FreshIds host) TakesCert (skipping certPresent (addCert host)) where
  keeps session entry hfresh _ := by
    unfold skipping
    split
    · exact hfresh
    · exact addCert_fresh hfresh entry
  takes session entry hfresh htakes := by
    change ∃ counted, (if certPresent session entry then (.ok 0, session)
      else (insertCertAndKey host entry >>= fun _ => pure 1 : Effect Session StoreError Nat)
        session) = _
    unfold skipping
    split
    · exact ⟨0, rfl⟩
    · rename_i habsent
      obtain ⟨hinsertable, hhex⟩ := htakes.resolve_left habsent
      refine ⟨1, ?_⟩
      rw [Effect.bind_of_ok (insertCertAndKey_of_insertable hfresh hinsertable hhex)]
      rfl
  refuses session entry _ hnot := by
    have habsent : ¬ certPresent session entry = true := fun h => hnot (Or.inl h)
    obtain ⟨error, session', hinsert⟩ := @insertCertAndKey_refused host session entry
      fun h => hnot (Or.inr h)
    refine ⟨error, session', ?_⟩
    change (if certPresent session entry then (.ok 0, session)
      else (insertCertAndKey host entry >>= fun _ => pure 1 : Effect Session StoreError Nat)
        session) = _
    rw [if_neg habsent, Effect.bind_of_err hinsert]

theorem takesCert_independent (host : Host) :
    Independent (FreshIds host) TakesCert (skipping certPresent (addCert host))
      (Apart certs restoredCert) := by
  intro session first second _ _ hapart
  have hcolumn : (("fingerprint", (·.fingerprint)) : String × (Cert → String)) ∈
      certs.unique := by simp [certs]
  unfold skipping
  split
  · rfl
  · exact or_congr (iff_of_eq (congrArg (· = true) (present_add hcolumn hapart session)))
      (and_congr_left fun _ => insertable_add hapart session)

/-- A key row up to its id. -/
def eraseId (key : KeyRow) : KeyRow := { key with id := "" }

def besideCerts (database : Database) : Database := { database with certs := [], keys := [] }

theorem certPresent_addCert {host : Host} {first second : BackupCert}
    (hapart : Apart certs restoredCert first second) (session : Session) :
    certPresent (addCert host session first) second = certPresent session second :=
  present_add (by simp [certs]) hapart session

/-- Every absent certificate has been added with its key, and nothing else has changed. -/
theorem foldl_addCert (host : Host) {entries : List BackupCert}
    (hapart : entries.Pairwise (Apart certs restoredCert)) (session : Session) :
    (entries.foldl (skipping certPresent (addCert host)) session).database =
      { session.database with
        certs := session.database.certs ++
          (absent certPresent session entries).map restoredCert
        keys := (entries.foldl (skipping certPresent (addCert host)) session).database.keys } ∧
    (entries.foldl (skipping certPresent (addCert host)) session).database.keys.map eraseId =
      session.database.keys.map eraseId ++
        (absent certPresent session entries).map fun entry => eraseId (keyRow entry "") := by
  have hothers : besideCerts
      (entries.foldl (skipping certPresent (addCert host)) session).database =
        besideCerts session.database :=
    foldl_skipping_frame (addCert host) (fun other => besideCerts other.database)
      (fun _ _ => rfl) entries session
  have hcerts : (entries.foldl (skipping certPresent (addCert host)) session).database.certs =
      session.database.certs ++ (absent certPresent session entries).map restoredCert :=
    foldl_skipping (addCert host) (fun other => other.database.certs) restoredCert (fun _ _ => rfl)
      (fun other _ _ hboth => certPresent_addCert hboth other) hapart session
  have hkeys : (entries.foldl (skipping certPresent (addCert host)) session).database.keys.map
      eraseId = session.database.keys.map eraseId ++
        (absent certPresent session entries).map fun entry => eraseId (keyRow entry "") :=
    foldl_skipping (addCert host) (fun other => other.database.keys.map eraseId)
      (fun entry => eraseId (keyRow entry "")) (fun _ _ => List.map_append)
      (fun other _ _ hboth => certPresent_addCert hboth other) hapart session
  generalize entries.foldl _ session = final at hothers hcerts hkeys ⊢
  refine ⟨?_, hkeys⟩
  have hdatabase : final.database =
      { session.database with
        certs := final.database.certs
        keys := final.database.keys } :=
    congrArg (fun other => ({ other with
      certs := final.database.certs
      keys := final.database.keys } : Database)) hothers
  rw [hcerts] at hdatabase
  exact hdatabase

end Certificates

section Stages

def caCertPresent : Session → BackupCaCert → Bool :=
  present caCerts ("fingerprint", (·.fingerprint)) caCertRow

def sshKeyPresent : Session → BackupSshKey → Bool := present sshKeys ("id", (·.id)) sshKeyRow

def appPresent : Session → BackupApp → Bool := present apps ("exe_path", (·.exePath)) appRow

def routePresent : Session → BackupRoute → Bool := present routes ("id", (·.id)) routeRow

def sshRoutePresent : Session → BackupSshRoute → Bool :=
  present sshRoutes ("id", (·.id)) sshRouteRow

theorem loads_restoreCaCert :
    Loads restoreCaCert (fun _ => True) (Takes caCerts ("fingerprint", (·.fingerprint)) caCertRow)
      (skipping caCertPresent (add caCerts caCertRow)) :=
  loads_guarded fun _ _ => rfl

theorem loads_restoreSshKey :
    Loads restoreSshKey (fun _ => True) (Takes sshKeys ("id", (·.id)) sshKeyRow)
      (skipping sshKeyPresent (add sshKeys sshKeyRow)) :=
  loads_guarded fun _ _ => rfl

theorem loads_restoreApp :
    Loads restoreApp (fun _ => True) (Takes apps ("exe_path", (·.exePath)) appRow)
      (skipping appPresent (add apps appRow)) :=
  loads_guarded fun _ _ => rfl

theorem loads_restoreRoute :
    Loads restoreRoute (fun _ => True) (Takes routes ("id", (·.id)) routeRow)
      (skipping routePresent (add routes routeRow)) :=
  loads_ignoring rfl fun _ => rfl

theorem loads_restoreSshRoute :
    Loads restoreSshRoute (fun _ => True) (Takes sshRoutes ("id", (·.id)) sshRouteRow)
      (skipping sshRoutePresent (add sshRoutes sshRouteRow)) :=
  loads_ignoring rfl fun _ => rfl

variable (host : Host) (payload : BackupPayload)

/-- No two entries of one list share an id, a fingerprint or a path. -/
structure Distinct : Prop where
  caCerts : payload.caCerts.Pairwise (Apart caCerts caCertRow)
  certs : payload.certs.Pairwise (Apart certs restoredCert)
  sshKeys : payload.sshKeys.Pairwise (Apart sshKeys sshKeyRow)
  apps : payload.apps.Pairwise (Apart apps appRow)
  routes : payload.routes.Pairwise (Apart routes routeRow)
  sshRoutes : payload.sshRoutes.Pairwise (Apart sshRoutes sshRouteRow)

/-- The tables of the target with what the payload adds to them; a certificate's key is
drawn a new id, so `keys` is left out. -/
def merged (session : Session) : Database :=
  { session.database with
    caCerts := session.database.caCerts ++
      (absent caCertPresent session payload.caCerts).map caCertRow
    certs := session.database.certs ++
      (absent certPresent session payload.certs).map restoredCert
    sshKeys := session.database.sshKeys ++
      (absent sshKeyPresent session payload.sshKeys).map sshKeyRow
    apps := session.database.apps ++ (absent appPresent session payload.apps).map appRow
    routes := session.database.routes ++
      (absent routePresent session payload.routes).map routeRow
    sshRoutes := session.database.sshRoutes ++
      (absent sshRoutePresent session payload.sshRoutes).map sshRouteRow }

def afterCaCerts (session : Session) : Session :=
  payload.caCerts.foldl (skipping caCertPresent (add caCerts caCertRow)) session

def afterCerts (session : Session) : Session :=
  payload.certs.foldl (skipping certPresent (addCert host)) (afterCaCerts payload session)

def afterSshKeys (session : Session) : Session :=
  payload.sshKeys.foldl (skipping sshKeyPresent (add sshKeys sshKeyRow))
    (afterCerts host payload session)

def afterApps (session : Session) : Session :=
  payload.apps.foldl (skipping appPresent (add apps appRow)) (afterSshKeys host payload session)

def afterRoutes (session : Session) : Session :=
  payload.routes.foldl (skipping routePresent (add routes routeRow))
    (afterApps host payload session)

def afterSshRoutes (session : Session) : Session :=
  payload.sshRoutes.foldl (skipping sshRoutePresent (add sshRoutes sshRouteRow))
    (afterRoutes host payload session)

def loaded (session : Session) : Database :=
  { merged payload session with keys := (afterCerts host payload session).database.keys }

variable {host payload}

theorem afterCaCerts_eq (hdistinct : Distinct payload) (session : Session) :
    afterCaCerts payload session =
      { session with
        database := { session.database with caCerts := (merged payload session).caCerts } } :=
  foldl_add (by simp [caCerts]) hdistinct.caCerts session

theorem afterCerts_eq (hdistinct : Distinct payload) (session : Session) :
    afterCerts host payload session =
      { database :=
          { loaded host payload session with
            sshKeys := session.database.sshKeys
            apps := session.database.apps
            routes := session.database.routes
            sshRoutes := session.database.sshRoutes }
        drawn := (afterCerts host payload session).drawn } := by
  have hdatabase := (foldl_addCert host hdistinct.certs (afterCaCerts payload session)).1
  rw [afterCaCerts_eq hdistinct] at hdatabase
  rw [loaded, afterCerts, afterCaCerts_eq hdistinct]
  exact congrArg (fun database => ({ database := database, drawn := _ } : Session)) hdatabase

theorem loaded_keys (hdistinct : Distinct payload) (session : Session) :
    (loaded host payload session).keys.map eraseId =
      session.database.keys.map eraseId ++
        (absent certPresent session payload.certs).map fun entry => eraseId (keyRow entry "") := by
  have hkeys := (foldl_addCert host hdistinct.certs (afterCaCerts payload session)).2
  rw [afterCaCerts_eq hdistinct] at hkeys
  rw [loaded, afterCerts, afterCaCerts_eq hdistinct]
  exact hkeys

theorem afterSshKeys_eq (hdistinct : Distinct payload) (session : Session) :
    afterSshKeys host payload session =
      { database :=
          { loaded host payload session with
            apps := session.database.apps
            routes := session.database.routes
            sshRoutes := session.database.sshRoutes }
        drawn := (afterCerts host payload session).drawn } := by
  rw [afterSshKeys, afterCerts_eq hdistinct]
  exact foldl_add (by simp [sshKeys]) hdistinct.sshKeys _

theorem afterApps_eq (hdistinct : Distinct payload) (session : Session) :
    afterApps host payload session =
      { database :=
          { loaded host payload session with
            routes := session.database.routes
            sshRoutes := session.database.sshRoutes }
        drawn := (afterCerts host payload session).drawn } := by
  rw [afterApps, afterSshKeys_eq hdistinct]
  exact foldl_add (by simp [apps]) hdistinct.apps _

theorem afterRoutes_eq (hdistinct : Distinct payload) (session : Session) :
    afterRoutes host payload session =
      { database :=
          { loaded host payload session with sshRoutes := session.database.sshRoutes }
        drawn := (afterCerts host payload session).drawn } := by
  rw [afterRoutes, afterApps_eq hdistinct]
  exact foldl_add (by simp [routes]) hdistinct.routes _

theorem afterSshRoutes_eq (hdistinct : Distinct payload) (session : Session) :
    afterSshRoutes host payload session =
      { database := loaded host payload session
        drawn := (afterCerts host payload session).drawn } := by
  rw [afterSshRoutes, afterRoutes_eq hdistinct]
  exact foldl_add (by simp [sshRoutes]) hdistinct.sshRoutes _

end Stages

section Outcome

variable {host : Host} {payload : BackupPayload} {session : Session}

/-- What has to hold of the target for the whole payload to be restored: every entry is
there already, or can be inserted. -/
structure Accepts (payload : BackupPayload) (session : Session) : Prop where
  caCerts : ∀ entry ∈ payload.caCerts,
    Takes caCerts ("fingerprint", (·.fingerprint)) caCertRow session entry
  certs : ∀ entry ∈ payload.certs, TakesCert session entry
  apps : ∀ entry ∈ payload.apps, Takes apps ("exe_path", (·.exePath)) appRow session entry
  routes : ∀ entry ∈ payload.routes, routePresent session entry = true ∨
    routes.references (merged payload session) (routeRow entry) = true
  sshRoutes : ∀ entry ∈ payload.sshRoutes, sshRoutePresent session entry = true ∨
    sshRoutes.references (merged payload session) (sshRouteRow entry) = true

theorem takesCert_afterCaCerts (hdistinct : Distinct payload) (entry : BackupCert) :
    TakesCert (afterCaCerts payload session) entry ↔ TakesCert session entry := by
  rw [afterCaCerts_eq hdistinct]
  rfl

theorem takes_afterCerts (entry : BackupSshKey) :
    Takes sshKeys ("id", (·.id)) sshKeyRow (afterCerts host payload session) entry :=
  (takes_iff_of_unique rfl).mpr (Or.inr rfl)

theorem takes_afterSshKeys (hdistinct : Distinct payload) (entry : BackupApp) :
    Takes apps ("exe_path", (·.exePath)) appRow (afterSshKeys host payload session) entry ↔
      Takes apps ("exe_path", (·.exePath)) appRow session entry := by
  rw [afterSshKeys_eq hdistinct]
  rfl

theorem takes_afterApps (hdistinct : Distinct payload) (entry : BackupRoute) :
    Takes routes ("id", (·.id)) routeRow (afterApps host payload session) entry ↔
      routePresent session entry = true ∨
        routes.references (merged payload session) (routeRow entry) = true := by
  rw [afterApps_eq hdistinct, takes_iff_of_unique rfl]
  rfl

theorem takes_afterRoutes (hdistinct : Distinct payload) (entry : BackupSshRoute) :
    Takes sshRoutes ("id", (·.id)) sshRouteRow (afterRoutes host payload session) entry ↔
      sshRoutePresent session entry = true ∨
        sshRoutes.references (merged payload session) (sshRouteRow entry) = true := by
  rw [afterRoutes_eq hdistinct, takes_iff_of_unique rfl]
  rfl

theorem freshIds_afterCaCerts (hfresh : FreshIds host session) (hdistinct : Distinct payload) :
    FreshIds host (afterCaCerts payload session) :=
  hfresh.congr (by rw [afterCaCerts_eq hdistinct])

theorem recordRestored_eq (hfresh : FreshIds host (afterCerts host payload session))
    (hdistinct : Distinct payload) (result : RestoreResult) :
    recordRestored host result (afterSshRoutes host payload session) =
      (.ok result,
        { database :=
            { loaded host payload session with
              auditLog := session.database.auditLog ++
                [restoredEntry host result (host.newId (afterCerts host payload session).drawn)] }
          drawn := (afterCerts host payload session).drawn + 1 }) := by
  have haudit := hfresh.notAudit _ le_rfl
  rw [afterCerts_eq hdistinct] at haudit
  rw [afterSshRoutes_eq hdistinct, recordRestored,
    Effect.bind_of_ok (show newId host _ = _ from rfl)]
  refine Effect.bind_of_ok (auditLog.insert_of_admitted ?_ rfl)
  rw [Table.conflict_eq_none_iff]
  simpa [auditLog, restoredEntry] using haudit

theorem freshIds_afterCerts (hfresh : FreshIds host session) (hdistinct : Distinct payload)
    (hcerts : ∀ entry ∈ payload.certs, TakesCert (afterCaCerts payload session) entry) :
    FreshIds host (afterCerts host payload session) :=
  (loadAll_of_allowed (loads_restoreCert host) (takesCert_independent host) hdistinct.certs
    (freshIds_afterCaCerts hfresh hdistinct) hcerts).2

/-- A payload that has been restored was accepted, and every entry that was absent has
been added. -/
theorem of_restorePayload_ok (hfresh : FreshIds host session) (hdistinct : Distinct payload)
    {result : RestoreResult} {session' : Session}
    (hrun : restorePayload host payload session = (.ok result, session')) :
    Accepts payload session ∧
      session'.database =
        { loaded host payload session with
          auditLog := session.database.auditLog ++
            [restoredEntry host result (host.newId (afterCerts host payload session).drawn)] } := by
  unfold restorePayload at hrun
  obtain ⟨hcaCerts, caCertCount, -, hrun⟩ :=
    (loadAll_bind_eq_ok_iff loads_restoreCaCert (takes_independent (by simp [caCerts]) _)
      hdistinct.caCerts trivial).mp hrun
  obtain ⟨hcerts, certCount, -, hrun⟩ :=
    (loadAll_bind_eq_ok_iff (loads_restoreCert host) (takesCert_independent host)
      hdistinct.certs (freshIds_afterCaCerts hfresh hdistinct)).mp hrun
  obtain ⟨-, sshKeyCount, -, hrun⟩ :=
    (loadAll_bind_eq_ok_iff loads_restoreSshKey (takes_independent (by simp [sshKeys]) _)
      hdistinct.sshKeys trivial).mp hrun
  obtain ⟨happs, appCount, -, hrun⟩ :=
    (loadAll_bind_eq_ok_iff loads_restoreApp (takes_independent (by simp [apps]) _)
      hdistinct.apps trivial).mp hrun
  obtain ⟨hroutes, routeCount, -, hrun⟩ :=
    (loadAll_bind_eq_ok_iff loads_restoreRoute (takes_independent (by simp [routes]) _)
      hdistinct.routes trivial).mp hrun
  obtain ⟨hsshRoutes, sshRouteCount, -, hrun⟩ :=
    (loadAll_bind_eq_ok_iff loads_restoreSshRoute (takes_independent (by simp [sshRoutes]) _)
      hdistinct.sshRoutes trivial).mp hrun
  have hfinal := hrun.symm.trans
    (recordRestored_eq (freshIds_afterCerts hfresh hdistinct hcerts) hdistinct _)
  obtain ⟨hresult, rfl⟩ := Prod.mk.inj hfinal
  obtain rfl := Outcome.ok.inj hresult
  refine ⟨?_, rfl⟩
  exact
    { caCerts := hcaCerts
      certs := fun entry hentry => (takesCert_afterCaCerts hdistinct entry).mp (hcerts entry hentry)
      apps := fun entry hentry => (takes_afterSshKeys hdistinct entry).mp (happs entry hentry)
      routes := fun entry hentry => (takes_afterApps hdistinct entry).mp (hroutes entry hentry)
      sshRoutes := fun entry hentry =>
        (takes_afterRoutes hdistinct entry).mp (hsshRoutes entry hentry) }

theorem restorePayload_ok_of_accepts (hfresh : FreshIds host session)
    (hdistinct : Distinct payload) (haccepts : Accepts payload session) :
    ∃ result session', restorePayload host payload session = (.ok result, session') := by
  have hcerts : ∀ entry ∈ payload.certs, TakesCert (afterCaCerts payload session) entry :=
    fun entry hentry => (takesCert_afterCaCerts hdistinct entry).mpr (haccepts.certs entry hentry)
  obtain ⟨⟨caCertCount, hloadCaCerts⟩, -⟩ :=
    loadAll_of_allowed loads_restoreCaCert (takes_independent (by simp [caCerts]) _)
      hdistinct.caCerts trivial haccepts.caCerts
  obtain ⟨⟨certCount, hloadCerts⟩, -⟩ :=
    loadAll_of_allowed (loads_restoreCert host) (takesCert_independent host) hdistinct.certs
      (freshIds_afterCaCerts hfresh hdistinct) hcerts
  obtain ⟨⟨sshKeyCount, hloadSshKeys⟩, -⟩ :=
    loadAll_of_allowed loads_restoreSshKey (takes_independent (by simp [sshKeys]) _)
      hdistinct.sshKeys trivial fun entry _ => @takes_afterCerts host payload session entry
  obtain ⟨⟨appCount, hloadApps⟩, -⟩ :=
    loadAll_of_allowed loads_restoreApp (takes_independent (by simp [apps]) _)
      hdistinct.apps trivial fun entry hentry =>
        (@takes_afterSshKeys host _ _ hdistinct entry).mpr (haccepts.apps entry hentry)
  obtain ⟨⟨routeCount, hloadRoutes⟩, -⟩ :=
    loadAll_of_allowed loads_restoreRoute (takes_independent (by simp [routes]) _)
      hdistinct.routes trivial fun entry hentry =>
        (@takes_afterApps host _ _ hdistinct entry).mpr (haccepts.routes entry hentry)
  obtain ⟨⟨sshRouteCount, hloadSshRoutes⟩, -⟩ :=
    loadAll_of_allowed loads_restoreSshRoute (takes_independent (by simp [sshRoutes]) _)
      hdistinct.sshRoutes trivial fun entry hentry =>
        (@takes_afterRoutes host _ _ hdistinct entry).mpr (haccepts.sshRoutes entry hentry)
  have hrun : restorePayload host payload session =
      recordRestored host
        { certs := certCount
          sshKeys := sshKeyCount
          caCerts := caCertCount
          apps := appCount
          routes := routeCount
          sshRoutes := sshRouteCount }
        (afterSshRoutes host payload session) := by
    unfold restorePayload
    refine (Effect.bind_of_ok hloadCaCerts).trans ?_
    refine (Effect.bind_of_ok hloadCerts).trans ?_
    refine (Effect.bind_of_ok hloadSshKeys).trans ?_
    refine (Effect.bind_of_ok hloadApps).trans ?_
    refine (Effect.bind_of_ok hloadRoutes).trans ?_
    exact Effect.bind_of_ok hloadSshRoutes
  rw [hrun, recordRestored_eq (freshIds_afterCerts hfresh hdistinct hcerts) hdistinct]
  exact ⟨_, _, rfl⟩

end Outcome

end TrafficCone.BackupRestoring
