import TrafficCone.CollectedPayloads
import TrafficCone.StoreListing

namespace TrafficCone.BackupRoundTrip

open TrafficCone.Outcomes
open TrafficCone.StoreModels
open TrafficCone.HexadecimalText
open TrafficCone.LinkedCrates
open TrafficCone.StoreListing
open TrafficCone.IndependentLoading
open TrafficCone.DatabaseTables
open TrafficCone.TableLoading
open TrafficCone.BackupArchives
open TrafficCone.BackupRestoring
open TrafficCone.CollectedPayloads

/-- Writing this payload under this password, and reading it again, gives it back. -/
structure Undoes (codec : BackupCodec) (payload : BackupPayload) (password : String)
    (backup : Bytes) : Prop where
  written : ∃ text, codec.toVecPretty payload = .ok text ∧ codec.encrypt password text = .ok backup
  read : ∃ text, codec.decrypt password backup = .ok text ∧ codec.fromSlice text = .ok payload

/-- A database that a backup can hold without loss. -/
structure Portable (database : Database) : Prop where
  wellFormed : WellFormed database
  oneKeyEach : OneKeyEach database
  noSystemFile : ∀ row ∈ database.caCerts, row.systemFile = none
  requireBoth : ∀ row ∈ database.routes, row.requireBoth = 0 ∨ row.requireBoth = 1

structure Empty (database : Database) : Prop where
  certs : database.certs = []
  keys : database.keys = []
  sshKeys : database.sshKeys = []
  caCerts : database.caCerts = []
  apps : database.apps = []
  routes : database.routes = []
  sshRoutes : database.sshRoutes = []

/-- The same rows in the tables that a backup is about, keys up to their ids. The
certificates and the keys are in the order of the join. -/
structure SameRows (restored original : Database) : Prop where
  certs : restored.certs.Perm original.certs
  keys : (restored.keys.map eraseId).Perm (original.keys.map eraseId)
  sshKeys : restored.sshKeys = original.sshKeys
  caCerts : restored.caCerts = original.caCerts
  apps : restored.apps = original.apps
  routes : restored.routes = original.routes
  sshRoutes : restored.sshRoutes = original.sshRoutes

section Restoring

variable {order : JoinOrder} {source target : Database}

theorem absent_of_empty {ρ α : Type} {table : Table ρ} {column : String × (ρ → String)}
    {row : α → ρ} {session : Session} (hempty : table.rows session.database = [])
    (entries : List α) : absent (present table column row) session entries = entries := by
  apply List.filter_eq_self.mpr
  intro entry _
  simp [present, hempty]

theorem insertable_of_empty {ρ α : Type} {table : Table ρ} {row : α → ρ} {session : Session}
    {entry : α} (hempty : table.rows session.database = [])
    (hreferences : table.references session.database (row entry) = true) :
    Insertable table row session entry := by
  refine ⟨?_, hreferences⟩
  rw [Table.conflict_eq_none_iff, hempty]
  simp

theorem merged_of_empty (hsource : Portable source) (hempty : Empty target) (drawn : Nat)
    (exportedAt : Int) :
    merged (payloadOf order source exportedAt) { database := target, drawn := drawn } =
      { target with
        certs := (order.rows source).map restoredCert
        sshKeys := source.sshKeys
        caCerts := source.caCerts
        apps := source.apps
        routes := source.routes
        sshRoutes := source.sshRoutes } := by
  have hcaCerts : source.caCerts.map (caCertRow ∘ backupCaCert) = source.caCerts :=
    (List.map_congr_left fun row hrow =>
      caCertRow_backupCaCert (hsource.noSystemFile row hrow)).trans (List.map_id _)
  have hroutes : source.routes.map (routeRow ∘ backupRoute) = source.routes :=
    (List.map_congr_left fun row hrow =>
      routeRow_backupRoute (hsource.requireBoth row hrow)).trans (List.map_id _)
  simp only [merged, caCertPresent, certPresent, sshKeyPresent, appPresent, routePresent,
    sshRoutePresent]
  rw [absent_of_empty hempty.certs, absent_of_empty hempty.sshKeys,
    absent_of_empty hempty.caCerts, absent_of_empty hempty.apps, absent_of_empty hempty.routes,
    absent_of_empty hempty.sshRoutes]
  simp only [payloadOf, hempty.caCerts, hempty.certs, hempty.sshKeys, hempty.apps, hempty.routes,
    hempty.sshRoutes, List.nil_append, List.map_map, hcaCerts, hroutes,
    map_sshKeyRow_backupSshKey, map_appRow_backupApp, map_sshRouteRow_backupSshRoute]

theorem references_of_perm {first second : Database} (hcerts : first.certs.Perm second.certs)
    (happs : first.apps = second.apps) (row : RouteRow) :
    routes.references first row = routes.references second row := by
  change (first.certs.any (fun cert => cert.id = row.certId) && referencesApp first row.appId) =
    (second.certs.any (fun cert => cert.id = row.certId) && referencesApp second row.appId)
  rw [hcerts.any_eq, referencesApp, referencesApp, happs]

theorem accepts_of_empty (hsource : Portable source) (hempty : Empty target) (drawn : Nat)
    (exportedAt : Int) :
    Accepts (payloadOf order source exportedAt) { database := target, drawn := drawn } where
  caCerts entry _ := Or.inr (insertable_of_empty hempty.caCerts rfl)
  certs entry hentry :=
    Or.inr ⟨insertable_of_empty hempty.certs rfl, hexDecode_of_mem_rows hentry⟩
  apps entry _ := Or.inr (insertable_of_empty hempty.apps rfl)
  routes entry hentry := by
    obtain ⟨row, hrow, rfl⟩ := List.mem_map.mp hentry
    right
    rw [merged_of_empty hsource hempty]
    refine (@references_of_perm _ source ?_ ?_ _).trans ?_
    · exact restoredCerts_perm order hsource.oneKeyEach
    · rfl
    · exact hsource.wellFormed.routes.2 row hrow
  sshRoutes entry hentry := by
    obtain ⟨row, hrow, rfl⟩ := List.mem_map.mp hentry
    right
    rw [merged_of_empty hsource hempty]
    exact hsource.wellFormed.sshRoutes.2 row hrow

theorem loaded_keys_of_empty (order : JoinOrder) (host : Host) (hsource : Portable source)
    (hempty : Empty target) (drawn : Nat) (exportedAt : Int) :
    ((loaded host (payloadOf order source exportedAt)
      { database := target, drawn := drawn }).keys.map eraseId).Perm
        (source.keys.map eraseId) := by
  have hdistinct := distinct_payloadOf order hsource.wellFormed hsource.oneKeyEach exportedAt
  rw [loaded_keys hdistinct, hempty.keys, certPresent, absent_of_empty hempty.certs]
  change ((order.rows source).map fun entry => eraseId (keyRow entry "")).Perm _
  have hkeys := keysByCert_perm hsource.wellFormed.certs hsource.wellFormed.keys
  exact (map_keyRow_rows_perm order source).trans (hkeys.map eraseId)

end Restoring

section Decrypting

variable {database : Database}

theorem find?_eq_of_perm {α : Type} {p : α → Bool} {first second : List α}
    (hperm : first.Perm second) (hunique : (second.filter p).length ≤ 1) :
    first.find? p = second.find? p := by
  have hfiltered : (first.filter p).Perm (second.filter p) := hperm.filter p
  rw [← List.head?_filter, ← List.head?_filter]
  match hfound : second.filter p with
  | [] =>
      rw [hfound] at hfiltered
      rw [hfiltered.eq_nil]
  | [found] =>
      rw [hfound] at hfiltered
      rw [List.perm_singleton.mp hfiltered]
  | _ :: _ :: _ =>
      rw [hfound] at hunique
      simp at hunique

theorem filter_keys_length_le (hkeys : keys.Sound database) (hone : OneKeyEach database)
    (certId : String) : (database.keys.filter fun key => key.certId = certId).length ≤ 1 := by
  rcases hfound : database.keys.filter fun key => key.certId = certId with _ | ⟨key, rest⟩
  · rw [hfound]
    simp
  · have hkey : key ∈ database.keys.filter fun key => key.certId = certId := by simp [hfound]
    rw [List.mem_filter, decide_eq_true_eq] at hkey
    obtain ⟨hkey, rfl⟩ := hkey
    have hrefers := hkeys.2 key hkey
    simp only [keys, List.any_eq_true, decide_eq_true_eq] at hrefers
    obtain ⟨cert, hcert, hid⟩ := hrefers
    obtain ⟨only, honly⟩ := hone cert hcert
    rw [← hid, honly]
    simp

/-- Decryption reads nothing of a key but what a backup keeps. -/
theorem getPlaintextKey_eq_of_perm {restored original : Database}
    (hperm : (restored.keys.map eraseId).Perm (original.keys.map eraseId))
    (hkeys : keys.Sound original) (hone : OneKeyEach original) (crates : Crates) (master : Bytes)
    (certId : String) :
    getPlaintextKey crates (.unlocked restored master) certId =
      getPlaintextKey crates (.unlocked original master) certId := by
  -- The first key found is the same in any order, since there is at most one.
  have hfind := @find?_eq_of_perm _ (fun key => decide (key.certId = certId)) _ _ hperm (by
    rw [List.filter_map, List.length_map]
    exact filter_keys_length_le hkeys hone certId)
  rw [List.find?_map, List.find?_map] at hfind
  unfold getPlaintextKey
  simp only [Store.conn_unlocked, Store.passphrase_unlocked, Outcome.ok_bind]
  change Option.map eraseId (restored.keys.find? fun row => row.certId = certId) =
    Option.map eraseId (original.keys.find? fun row => row.certId = certId) at hfind
  generalize (restored.keys.find? fun row => row.certId = certId) = first at hfind ⊢
  generalize (original.keys.find? fun row => row.certId = certId) = second at hfind ⊢
  rcases first with _ | ⟨_, _, _, _, _, _⟩ <;> rcases second with _ | ⟨_, _, _, _, _, _⟩ <;>
    simp_all [eraseId]

end Decrypting

section RoundTrip

variable {codec : BackupCodec} {order : JoinOrder} {host newHost : Host} {password : String}
  {backup : Bytes} {source target : Database} {master newMaster : Bytes}

theorem createBackup_fst
    (hcodec : Undoes codec (payloadOf order source host.unixNow) password backup)
    (hunused : host.newId 0 ∉ source.auditLog.map (·.id)) :
    (createBackup codec order host password (.unlocked source master)).1 = .ok backup := by
  obtain ⟨text, htext, hbackup⟩ := hcodec.written
  have hpayload : Effect.reads (collectBackupPayload order host) (.unlocked source master) =
      (.ok (payloadOf order source host.unixNow), .unlocked source master) := rfl
  unfold createBackup
  rw [Effect.bind_of_ok hpayload, htext, Outcome.ofExcept_ok, Outcome.mapErr_ok,
    Effect.lift_ok_bind, ageEncrypt, hbackup, Outcome.ofExcept_ok, Outcome.mapErr_ok,
    Effect.lift_ok_bind]
  have haudit : auditLog.conflict source (createdEntry host (host.newId 0)) = none := by
    rw [Table.conflict_eq_none_iff]
    simpa [auditLog, createdEntry] using hunused
  have hrecord : recordCreated host { database := source, drawn := 0 } =
      (.ok (), auditLog.append (createdEntry host (host.newId 0))
        { database := source, drawn := 1 }) := by
    unfold recordCreated
    rw [Effect.bind_of_ok (show newId host _ = _ from rfl)]
    exact auditLog.insert_of_admitted haudit rfl
  rw [Effect.bind_of_ok (withConn_unlocked hrecord master)]
  rfl

theorem restoreBackup_eq {payload : BackupPayload}
    (hread : ∃ text, codec.decrypt password backup = .ok text ∧ codec.fromSlice text = .ok payload)
    (store : Store) :
    restoreBackup codec newHost backup password store =
      withConn (restorePayload newHost payload) store := by
  obtain ⟨text, hdecrypted, hparsed⟩ := hread
  unfold restoreBackup
  rw [ageDecrypt, hdecrypted, Outcome.ofExcept_ok, Outcome.mapErr_ok, Effect.lift_ok_bind,
    hparsed, Outcome.ofExcept_ok, Outcome.mapErr_ok, Effect.lift_ok_bind]

/-- Restoring a backup into an empty store gives the rows of the store it was made from. -/
theorem restore_createBackup
    (hcodec : Undoes codec (payloadOf order source host.unixNow) password backup)
    (hsource : Portable source) (hempty : Empty target)
    (hunused : host.newId 0 ∉ source.auditLog.map (·.id))
    (hfresh : FreshIds newHost { database := target, drawn := 0 }) :
    (createBackup codec order host password (.unlocked source master)).1 = .ok backup ∧
      ∃ result restored,
        restoreBackup codec newHost backup password (.unlocked target newMaster) =
          (.ok result, .unlocked restored newMaster) ∧
        SameRows restored source ∧
        ∀ crates passphrase certId,
          getPlaintextKey crates (.unlocked restored passphrase) certId =
            getPlaintextKey crates (.unlocked source passphrase) certId := by
  refine ⟨createBackup_fst hcodec hunused, ?_⟩
  have hdistinct := distinct_payloadOf order hsource.wellFormed hsource.oneKeyEach host.unixNow
  obtain ⟨result, session, hrun⟩ := restorePayload_ok_of_accepts hfresh hdistinct
    (accepts_of_empty hsource hempty 0 host.unixNow)
  have hrestored := (of_restorePayload_ok hfresh hdistinct hrun).2
  have hkeys := loaded_keys_of_empty order newHost hsource hempty 0 host.unixNow
  rw [loaded, merged_of_empty hsource hempty] at hrestored hkeys
  have hsame : SameRows session.database source := by
    rw [hrestored]
    exact
      { certs := restoredCerts_perm order hsource.oneKeyEach
        keys := hkeys
        sshKeys := rfl
        caCerts := rfl
        apps := rfl
        routes := rfl
        sshRoutes := rfl }
  refine ⟨result, session.database, ?_, hsame, ?_⟩
  · rw [restoreBackup_eq hcodec.read, withConn_unlocked hrun]
  · intro crates passphrase certId
    exact getPlaintextKey_eq_of_perm hsame.keys hsource.wellFormed.keys hsource.oneKeyEach
      crates passphrase certId

def officeDatabase : Database :=
  { certs := [
      { id := "c1", label := "office", certDer := [0x30, 0x82], fingerprint := "aa11"
        subject := "CN=office", issuer := "CN=ca", notBefore := 0, notAfter := 100
        createdAt := 5 }]
    keys := [
      { id := "k1", certId := "c1", algorithm := "EcP256", keyEnc := [7, 8], keySalt := [1]
        keyNonce := [2] }]
    sshKeys := [
      { id := "s1", label := "git", publicKey := "ssh-ed25519 AAAA", algorithm := "Ed25519"
        keyEnc := [9], keySalt := [3], keyNonce := [4], createdAt := 6 }]
    caCerts := [
      { id := "t1", label := "ca", certPem := "PEM", fingerprint := "bb22", subject := "CN=ca"
        notAfter := 200, systemFile := none, createdAt := 4 }]
    apps := [
      { id := "a1", label := "curl", exePath := "/usr/bin/curl", exeHash := "cc33"
        registeredAt := 7 }]
    routes := [
      { id := "r1", certId := "c1", appId := some "a1", matchType := "hostname"
        pattern := some "vpn.example", requireBoth := 1, priority := 10, createdAt := 8 }]
    sshRoutes := [
      { id := "q1", sshKeyId := "s1", appId := some "a1", hostPattern := none, createdAt := 9 }] }

theorem portable_officeDatabase : Portable officeDatabase where
  wellFormed := by
    constructor <;> constructor <;> decide
  oneKeyEach := by simp [OneKeyEach, officeDatabase]
  noSystemFile := by decide
  requireBoth := by decide

def officePayload : BackupPayload := payloadOf keyOrder officeDatabase 50

def countingHost : Host where
  unixNow := 50
  newId index := String.ofList (List.replicate (index + 1) 'n')

theorem countingHost_distinct : Function.Injective countingHost.newId := by
  intro first second h
  have hlength := congrArg (fun text => text.toList.length) h
  simpa [countingHost] using hlength

/-- A codec that knows one payload, and writes the password before the text. -/
def onePayload (payload : BackupPayload) : BackupCodec where
  toVecPretty given := if given = payload then .ok (asBytes "json") else .error "unknown"
  fromSlice text := if text = asBytes "json" then .ok payload else .error "unknown"
  encrypt password text := .ok (asBytes password ++ text)
  decrypt password backup :=
    if (asBytes password).isPrefixOf backup then .ok (backup.drop (asBytes password).length)
    else .error (.decrypt "Decryption failed")

theorem onePayload_reads (payload : BackupPayload) :
    ∃ text, (onePayload payload).decrypt "pw" (asBytes "pwjson") = .ok text ∧
      (onePayload payload).fromSlice text = .ok payload :=
  ⟨asBytes "json", rfl, rfl⟩

theorem restore_createBackup_office :
    (createBackup (onePayload officePayload) keyOrder countingHost "pw"
      (.unlocked officeDatabase [1])).1 = .ok (asBytes "pwjson") ∧
      ∃ result restored,
        restoreBackup (onePayload officePayload) countingHost
          (asBytes "pwjson") "pw" (.unlocked {} [2]) = (.ok result, .unlocked restored [2]) ∧
        SameRows restored officeDatabase ∧
        ∀ crates passphrase certId,
          getPlaintextKey crates (.unlocked restored passphrase) certId =
            getPlaintextKey crates (.unlocked officeDatabase passphrase) certId := by
  refine @restore_createBackup _ keyOrder countingHost countingHost "pw" _ _ {} _ _ ?_
    portable_officeDatabase ?_ ?_ ?_
  · exact
      { written := ⟨asBytes "json", by simp [onePayload, officePayload, countingHost], by decide⟩
        read := ⟨asBytes "json", by decide, by simp [onePayload, officePayload, countingHost]⟩ }
  · constructor <;> rfl
  · decide
  · exact
      { distinct := countingHost_distinct
        notKeys := by simp
        notAudit := by simp }

end RoundTrip

end TrafficCone.BackupRoundTrip
