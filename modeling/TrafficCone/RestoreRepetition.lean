import TrafficCone.RestoredTables

namespace TrafficCone.RestoreRepetition

open TrafficCone.Outcomes
open TrafficCone.StoreModels
open TrafficCone.IndependentLoading
open TrafficCone.FirstComers
open TrafficCone.DatabaseTables
open TrafficCone.BackupArchives
open TrafficCone.BackupRestoring
open TrafficCone.BackupRoundTrip
open TrafficCone.RestoredTables

/-- Every entry of the payload counts as already there. -/
structure Settled (payload : BackupPayload) (database : Database) : Prop where
  caCerts : ∀ entry ∈ payload.caCerts,
    entry.fingerprint ∈ database.caCerts.map (·.fingerprint)
  certs : ∀ entry ∈ payload.certs, entry.fingerprint ∈ database.certs.map (·.fingerprint)
  sshKeys : ∀ entry ∈ payload.sshKeys, entry.id ∈ database.sshKeys.map (·.id)
  apps : ∀ entry ∈ payload.apps, entry.exePath ∈ database.apps.map (·.exePath)
  routes : ∀ entry ∈ payload.routes, entry.id ∈ database.routes.map (·.id)
  sshRoutes : ∀ entry ∈ payload.sshRoutes, entry.id ∈ database.sshRoutes.map (·.id)

/-- The tables that a restore fills are the same. -/
structure SameEntries (first second : Database) : Prop where
  certs : first.certs = second.certs
  keys : first.keys = second.keys
  sshKeys : first.sshKeys = second.sshKeys
  caCerts : first.caCerts = second.caCerts
  apps : first.apps = second.apps
  routes : first.routes = second.routes
  sshRoutes : first.sshRoutes = second.sshRoutes

variable {host : Host} {payload : BackupPayload}

/-- Behind the new entries each entry is there. -/
theorem settled_extended (database : Database) (drawn : Nat) :
    Settled payload (extended host payload database drawn) where
  caCerts entry hentry := by
    rw [extended, List.map_append, List.map_map]
    exact key_mem_newcomers hentry
  certs entry hentry := by
    rw [extended, List.map_append, List.map_map]
    exact key_mem_newcomers hentry
  sshKeys entry hentry := by
    rw [extended, List.map_append, List.map_map]
    exact key_mem_newcomers hentry
  apps entry hentry := by
    rw [extended, List.map_append, List.map_map]
    exact key_mem_newcomers hentry
  routes entry hentry := by
    rw [extended, List.map_append, List.map_map]
    exact key_mem_newcomers hentry
  sshRoutes entry hentry := by
    rw [extended, List.map_append, List.map_map]
    exact key_mem_newcomers hentry

/-- All six loops pass over what is there, and only the log is written. -/
theorem restorePayload_of_settled {session : Session}
    (hsettled : Settled payload session.database) :
    restorePayload host payload session =
      recordRestored host
        { certs := 0
          sshKeys := 0
          caCerts := 0
          apps := 0
          routes := payload.routes.length
          sshRoutes := payload.sshRoutes.length } session := by
  have hcaCerts := gathers_restoreCaCert.loadAll_of_known hsettled.caCerts
  have hcerts := (gathers_restoreCert host).loadAll_of_known hsettled.certs
  have hsshKeys := gathers_restoreSshKey.loadAll_of_known hsettled.sshKeys
  have happs := gathers_restoreApp.loadAll_of_known hsettled.apps
  have hroutes := gathers_restoreRoute.loadAll_of_known hsettled.routes
  have hsshRoutes := gathers_restoreSshRoute.loadAll_of_known hsettled.sshRoutes
  rw [Nat.zero_mul] at hcaCerts hcerts hsshKeys happs
  rw [Nat.one_mul] at hroutes hsshRoutes
  rw [restorePayload, Effect.bind_of_ok hcaCerts, Effect.bind_of_ok hcerts,
    Effect.bind_of_ok hsshKeys, Effect.bind_of_ok happs, Effect.bind_of_ok hroutes,
    Effect.bind_of_ok hsshRoutes]

theorem recordRestored_of_unused {session : Session} {result : RestoreResult}
    (hunused : host.newId session.drawn ∉ session.database.auditLog.map (·.id)) :
    recordRestored host result session =
      (.ok result,
        auditLog.append (restoredEntry host result (host.newId session.drawn))
          { session with drawn := session.drawn + 1 }) := by
  have hnone : auditLog.conflict session.database
      (restoredEntry host result (host.newId session.drawn)) = none := by
    rw [Table.conflict_eq_none_iff]
    intro column hcolumn
    obtain rfl := List.mem_singleton.mp hcolumn
    exact hunused
  have hinserted : auditLog.insert (restoredEntry host result (host.newId session.drawn))
      { session with drawn := session.drawn + 1 } = (.ok (), _) :=
    auditLog.insert_of_admitted hnone rfl
  rw [recordRestored, Effect.bind_of_ok (show newId host session = _ from rfl),
    Effect.bind_of_ok hinserted]
  rfl

variable {codec : BackupCodec} {first second : Bytes} {firstPassword secondPassword : String}
  {later : Host} {store : Store} {restored : Database} {master : Bytes} {result : RestoreResult}

/-- A second restore of the same payload goes through as well, and adds nothing. -/
theorem restore_again (hfirst : Reads codec firstPassword first payload)
    (hsecond : Reads codec secondPassword second payload)
    (hrun : restoreBackup codec host first firstPassword store =
      (.ok result, .unlocked restored master))
    (hunused : later.newId 0 ∉ restored.auditLog.map (·.id)) :
    ∃ repeated again, restoreBackup codec later second secondPassword (.unlocked restored master) =
      (.ok repeated, .unlocked again master) ∧ SameEntries again restored := by
  obtain ⟨database, session, rfl, hpayload, rfl⟩ := (restoreBackup_ok_iff hfirst).mp hrun
  obtain ⟨-, hrestored, -⟩ := restorePayload_adds hpayload
  have hsettled : Settled payload session.database := by
    rw [hrestored]
    exact { @settled_extended host payload database 0 with }
  have hagain := @restorePayload_of_settled later payload
    { database := session.database, drawn := 0 } hsettled
  rw [recordRestored_of_unused hunused] at hagain
  refine ⟨_, _, (restoreBackup_ok_iff hsecond).mpr ⟨_, _, rfl, hagain, rfl⟩, ?_⟩
  exact
    { certs := rfl
      keys := rfl
      sshKeys := rfl
      caCerts := rfl
      apps := rfl
      routes := rfl
      sshRoutes := rfl }

/-- A backup in which the certificate and the route stand twice. -/
def doubledPayload : BackupPayload :=
  { officePayload with
    certs := joinKeys officeDatabase ++ joinKeys officeDatabase
    routes := officeDatabase.routes.map backupRoute ++ officeDatabase.routes.map backupRoute }

def laterHost : Host where
  unixNow := 60
  newId index := String.ofList (List.replicate (index + 1) 'm')

theorem restore_again_doubled :
    ∃ result restored repeated again,
      restoreBackup (onePayload doubledPayload) countingHost (asBytes "pwjson") "pw"
        (.unlocked {} [2]) = (.ok result, .unlocked restored [2]) ∧
      restored.certs.length = 1 ∧
      restoreBackup (onePayload doubledPayload) laterHost (asBytes "pwjson") "pw"
        (.unlocked restored [2]) = (.ok repeated, .unlocked again [2]) ∧
      SameEntries again restored := by
  have hread := onePayload_reads doubledPayload
  have hrestored : (restorePayload countingHost doubledPayload
      { database := {}, drawn := 0 }).1 = .ok (counters doubledPayload {}) := by
    decide +kernel
  have hrun := @restoreBackup_of_restorePayload _ _ _ _ _ _ [2] _ hread hrestored
  obtain ⟨repeated, again, hagain, hsame⟩ :=
    @restore_again _ _ _ _ _ _ _ laterHost _ _ _ _ hread hread hrun (by decide +kernel)
  exact ⟨_, _, repeated, again, hrun, by decide +kernel, hagain, hsame⟩

end TrafficCone.RestoreRepetition
