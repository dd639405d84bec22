import Mathlib.Data.List.Nodup
import TrafficCone.BackupRestoring

namespace TrafficCone.CollectedPayloads

open TrafficCone.StoreModels
open TrafficCone.HexadecimalText
open TrafficCone.DatabaseTables
open TrafficCone.TableLoading
open TrafficCone.BackupArchives
open TrafficCone.BackupRestoring

section Rows

@[simp] theorem decodeOrEmpty_hexEncode (bytes : Bytes) :
    decodeOrEmpty (hexEncode bytes) = bytes := by
  simp [decodeOrEmpty, hexDecode_hexEncode]

@[simp] theorem restoredCert_backupCert (cert : Cert) (key : KeyRow) :
    restoredCert (backupCert cert key) = cert := by
  simp [restoredCert, certRow, backupCert]

theorem eraseId_keyRow_backupCert {cert : Cert} {key : KeyRow} (h : key.certId = cert.id) :
    eraseId (keyRow (backupCert cert key) "") = eraseId key := by
  simp [eraseId, keyRow, backupCert, h]

@[simp] theorem sshKeyRow_backupSshKey (row : SshKeyRow) : sshKeyRow (backupSshKey row) = row := by
  simp [sshKeyRow, backupSshKey]

@[simp] theorem appRow_backupApp (row : App) : appRow (backupApp row) = row := rfl

@[simp] theorem sshRouteRow_backupSshRoute (row : SshRoute) :
    sshRouteRow (backupSshRoute row) = row := rfl

theorem map_sshKeyRow_backupSshKey (rows : List SshKeyRow) :
    rows.map (sshKeyRow ∘ backupSshKey) = rows :=
  List.map_id'' sshKeyRow_backupSshKey rows

theorem map_appRow_backupApp (rows : List App) : rows.map (appRow ∘ backupApp) = rows :=
  List.map_id'' appRow_backupApp rows

theorem map_sshRouteRow_backupSshRoute (rows : List SshRoute) :
    rows.map (sshRouteRow ∘ backupSshRoute) = rows :=
  List.map_id'' sshRouteRow_backupSshRoute rows

/-- A backup has no column for the file of a system certificate. -/
theorem caCertRow_backupCaCert {row : CaCert} (h : row.systemFile = none) :
    caCertRow (backupCaCert row) = row := by
  cases row
  simp_all [caCertRow, backupCaCert]

theorem routeRow_backupRoute {row : RouteRow} (h : row.requireBoth = 0 ∨ row.requireBoth = 1) :
    routeRow (backupRoute row) = row := by
  cases row
  rcases h with h | h <;> simp_all [routeRow, backupRoute]

end Rows

section Joins

variable {order : JoinOrder} {database : Database}

def keysByCert (database : Database) : List KeyRow :=
  database.certs.flatMap fun cert => database.keys.filter fun key => key.certId = cert.id

theorem map_keyRow_joinKeys (database : Database) :
    (joinKeys database).map (fun entry => eraseId (keyRow entry "")) =
      (keysByCert database).map eraseId := by
  unfold joinKeys keysByCert
  rw [List.map_flatMap, List.map_flatMap]
  apply List.flatMap_congr
  intro cert _
  rw [List.map_map]
  apply List.map_congr_left
  intro key hkey
  exact eraseId_keyRow_backupCert (by simpa using (List.mem_filter.mp hkey).2)

/-- Each key belongs to one certificate, so the join lists each key once. -/
theorem keysByCert_perm (hcerts : certs.Sound database) (hkeys : keys.Sound database) :
    (keysByCert database).Perm database.keys := by
  have hnodup : database.keys.Nodup := List.Nodup.of_map _ (hkeys.1 ("id", (·.id)) (by simp [keys]))
  have hids : (database.certs.map (·.id)).Nodup := hcerts.1 ("id", (·.id)) (by simp [certs])
  have hjoined : (keysByCert database).Nodup := by
    refine List.nodup_flatMap.mpr ⟨fun cert _ => hnodup.filter _, ?_⟩
    apply (List.pairwise_map.mp hids).imp
    intro first second hother key hfirst hsecond
    simp only [List.mem_filter, decide_eq_true_eq] at hfirst hsecond
    exact hother (hfirst.2.symm.trans hsecond.2)
  apply (List.perm_ext_iff_of_nodup hjoined hnodup).mpr
  intro key
  simp only [keysByCert, List.mem_flatMap, List.mem_filter, decide_eq_true_eq]
  constructor
  · rintro ⟨cert, -, hkey, -⟩
    exact hkey
  · intro hkey
    have hrefers := hkeys.2 key hkey
    simp only [keys, List.any_eq_true, decide_eq_true_eq] at hrefers
    obtain ⟨cert, hcert, hid⟩ := hrefers
    exact ⟨cert, hcert, hkey, hid.symm⟩

theorem map_keyRow_rows_perm (order : JoinOrder) (database : Database) :
    ((order.rows database).map fun entry => eraseId (keyRow entry "")).Perm
      ((keysByCert database).map eraseId) := by
  rw [← map_keyRow_joinKeys]
  exact (order.perm database).map _

theorem map_restoredCert_joinKeys (hone : OneKeyEach database) :
    (joinKeys database).map restoredCert = database.certs := by
  have hsingle : ∀ cert ∈ database.certs,
      ((database.keys.filter fun key => key.certId = cert.id).map (backupCert cert)).map
        restoredCert = [cert] := by
    intro cert hcert
    obtain ⟨key, hkey⟩ := hone cert hcert
    rw [hkey]
    simp
  unfold joinKeys
  rw [List.map_flatMap, List.flatMap_congr hsingle, List.flatMap_singleton']

theorem restoredCerts_perm (order : JoinOrder) (hone : OneKeyEach database) :
    ((order.rows database).map restoredCert).Perm database.certs := by
  rw [← map_restoredCert_joinKeys hone]
  exact (order.perm database).map restoredCert

theorem hexDecode_of_mem_rows {entry : BackupCert} (hentry : entry ∈ order.rows database) :
    ∃ bytes, hexDecode entry.certDer = .ok bytes := by
  rw [(order.perm database).mem_iff] at hentry
  simp only [joinKeys, List.mem_flatMap, List.mem_map] at hentry
  obtain ⟨cert, -, key, -, rfl⟩ := hentry
  exact ⟨_, hexDecode_hexEncode cert.certDer⟩

end Joins

section Distinctness

variable {ρ : Type} {table : Table ρ} {database : Database}

theorem pairwise_of_sound (hsound : table.Sound database) :
    (table.rows database).Pairwise fun first second =>
      ∀ column ∈ table.unique, column.2 first ≠ column.2 second := by
  rw [List.pairwise_iff_getElem]
  intro i j hi hj hij column hcolumn
  have hnodup := List.pairwise_map.mp (hsound.1 column hcolumn)
  exact List.pairwise_iff_getElem.mp hnodup i j hi hj hij

theorem apart_map {α : Type} {row : α → ρ} {backup : ρ → α} (hsound : table.Sound database)
    (hsame : ∀ column ∈ table.unique, ∀ found, column.2 (row (backup found)) = column.2 found) :
    ((table.rows database).map backup).Pairwise (Apart table row) := by
  apply List.pairwise_map.mpr
  apply (pairwise_of_sound hsound).imp
  intro first second hother column hcolumn
  rw [hsame column hcolumn, hsame column hcolumn]
  exact hother column hcolumn

theorem distinct_payloadOf (order : JoinOrder) (hwellFormed : WellFormed database)
    (hone : OneKeyEach database) (exportedAt : Int) :
    Distinct (payloadOf order database exportedAt) where
  caCerts := apart_map hwellFormed.caCerts (by simp [caCerts, caCertRow, backupCaCert])
  certs := by
    have hcerts := pairwise_of_sound hwellFormed.certs
    change database.certs.Pairwise _ at hcerts
    have hrows := hcerts.perm (restoredCerts_perm order hone).symm
      fun hother column hcolumn => (hother column hcolumn).symm
    rw [List.pairwise_map] at hrows
    exact hrows
  sshKeys := apart_map hwellFormed.sshKeys (by simp)
  apps := apart_map hwellFormed.apps (by simp)
  routes := apart_map hwellFormed.routes (by simp [routes, routeRow, backupRoute])
  sshRoutes := apart_map hwellFormed.sshRoutes (by simp)

end Distinctness

end TrafficCone.CollectedPayloads
