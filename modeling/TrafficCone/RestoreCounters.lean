import TrafficCone.RestoredTables

namespace TrafficCone.RestoreCounters

open TrafficCone.Outcomes
open TrafficCone.StoreModels
open TrafficCone.FirstComers
open TrafficCone.DatabaseTables
open TrafficCone.BackupArchives
open TrafficCone.BackupRestoring
open TrafficCone.BackupRoundTrip
open TrafficCone.RestoredTables

/-- Each counter is the number of rows that its table has grown by. -/
structure CountsGrowth (result : RestoreResult) (before after : Database) : Prop where
  certs : after.certs.length = before.certs.length + result.certs
  sshKeys : after.sshKeys.length = before.sshKeys.length + result.sshKeys
  caCerts : after.caCerts.length = before.caCerts.length + result.caCerts
  apps : after.apps.length = before.apps.length + result.apps
  routes : after.routes.length = before.routes.length + result.routes
  sshRoutes : after.sshRoutes.length = before.sshRoutes.length + result.sshRoutes

/-- Every row is where it was. -/
structure KeepsRows (before after : Database) : Prop where
  certs : before.certs <+: after.certs
  keys : before.keys <+: after.keys
  sshKeys : before.sshKeys <+: after.sshKeys
  caCerts : before.caCerts <+: after.caCerts
  apps : before.apps <+: after.apps
  routes : before.routes <+: after.routes
  sshRoutes : before.sshRoutes <+: after.sshRoutes
  integrity : before.integrity <+: after.integrity
  auditLog : before.auditLog <+: after.auditLog

/-- No route of the payload has an id that is in the table or belongs to another of them. -/
structure RoutesAreNew (payload : BackupPayload) (database : Database) : Prop where
  routes : (payload.routes.map (·.id)).Nodup ∧
    ∀ route ∈ payload.routes, route.id ∉ database.routes.map (·.id)
  sshRoutes : (payload.sshRoutes.map (·.id)).Nodup ∧
    ∀ route ∈ payload.sshRoutes, route.id ∉ database.sshRoutes.map (·.id)

variable {codec : BackupCodec} {host : Host} {password : String} {backup : Bytes}
  {payload : BackupPayload} {database restored : Database} {master : Bytes}
  {result : RestoreResult}

theorem keepsRows_of_restore (hread : Reads codec password backup payload)
    (h : restoreBackup codec host backup password (.unlocked database master) =
      (.ok result, .unlocked restored master)) :
    KeepsRows database restored := by
  obtain ⟨-, rfl, -⟩ := restoreBackup_adds hread h
  exact
    { certs := List.prefix_append _ _
      keys := List.prefix_append _ _
      sshKeys := List.prefix_append _ _
      caCerts := List.prefix_append _ _
      apps := List.prefix_append _ _
      routes := List.prefix_append _ _
      sshRoutes := List.prefix_append _ _
      integrity := List.prefix_refl _
      auditLog := List.prefix_append _ _ }

/-- The counters of the routes are right only when all of them are new; the other four
always are. -/
theorem countsGrowth_iff (hread : Reads codec password backup payload)
    (h : restoreBackup codec host backup password (.unlocked database master) =
      (.ok result, .unlocked restored master)) :
    CountsGrowth result database restored ↔ RoutesAreNew payload database := by
  obtain ⟨rfl, rfl, -⟩ := restoreBackup_adds hread h
  constructor
  · intro hcounts
    have hroutes := hcounts.routes
    have hsshRoutes := hcounts.sshRoutes
    simp only [extended, counters, List.length_append, List.length_map, Nat.add_left_cancel_iff]
      at hroutes hsshRoutes
    exact
      { routes := length_newcomers_eq_iff.mp hroutes
        sshRoutes := length_newcomers_eq_iff.mp hsshRoutes }
  · intro hnew
    have hroutes : (newRoutes payload database).length = payload.routes.length :=
      length_newcomers_eq_iff.mpr hnew.routes
    have hsshRoutes : (newSshRoutes payload database).length = payload.sshRoutes.length :=
      length_newcomers_eq_iff.mpr hnew.sshRoutes
    constructor <;>
      simp only [extended, counters, List.length_append, List.length_map, hroutes, hsshRoutes]

/-- The counters are the growth and no row is lost, exactly if the routes are new. -/
theorem counters_right_iff (hread : Reads codec password backup payload)
    (h : restoreBackup codec host backup password (.unlocked database master) =
      (.ok result, .unlocked restored master)) :
    (CountsGrowth result database restored ∧ KeepsRows database restored) ↔
      RoutesAreNew payload database := by
  rw [countsGrowth_iff hread h, and_iff_left_iff_imp]
  exact fun _ => keepsRows_of_restore hread h

theorem counters_right_iff_office :
    ∃ result restored,
      restoreBackup (onePayload officePayload) countingHost (asBytes "pwjson") "pw"
        (.unlocked {} [2]) = (.ok result, .unlocked restored [2]) ∧
      ((CountsGrowth result {} restored ∧ KeepsRows {} restored) ↔
        RoutesAreNew officePayload {}) := by
  have hread := onePayload_reads officePayload
  have hrestored : (restorePayload countingHost officePayload
      { database := {}, drawn := 0 }).1 = .ok (counters officePayload {}) := by
    decide +kernel
  have hrun := @restoreBackup_of_restorePayload _ _ _ _ _ _ [2] _ hread hrestored
  exact ⟨_, _, hrun, counters_right_iff hread hrun⟩

/-- Restoring a backup into the store it was made from counts the route and the SSH route
that are already there. -/
theorem ignored_route_counted :
    ∃ result restored,
      restoreBackup (onePayload officePayload) countingHost (asBytes "pwjson") "pw"
        (.unlocked officeDatabase [2]) = (.ok result, .unlocked restored [2]) ∧
      restored.routes = officeDatabase.routes ∧ result.routes = 1 ∧
      restored.sshRoutes = officeDatabase.sshRoutes ∧ result.sshRoutes = 1 ∧
      ¬ (CountsGrowth result officeDatabase restored ∧ KeepsRows officeDatabase restored) := by
  have hrestored : (restorePayload countingHost officePayload
      { database := officeDatabase, drawn := 0 }).1 =
        .ok (counters officePayload officeDatabase) := by
    decide +kernel
  have hrun := @restoreBackup_of_restorePayload _ _ _ _ _ _ [2] _ (onePayload_reads _) hrestored
  refine ⟨_, _, hrun, by decide +kernel, rfl, by decide +kernel, rfl, ?_⟩
  rintro ⟨hcounts, -⟩
  have hroutes := hcounts.routes
  revert hroutes
  decide +kernel

end TrafficCone.RestoreCounters
