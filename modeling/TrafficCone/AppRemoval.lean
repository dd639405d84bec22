import TrafficCone.CommittedStatements
import TrafficCone.SplitReads

namespace TrafficCone.AppRemoval

open TrafficCone.Outcomes
open TrafficCone.StoreModels
open TrafficCone.StoreListing
open TrafficCone.RouteResolution
open TrafficCone.DatabaseTables
open TrafficCone.BackupArchives
open TrafficCone.SplitReads

section Deleting

/-- `ON DELETE SET NULL`. -/
def clearApp (id : String) (appId : Option String) : Option String :=
  if appId = some id then none else appId

def clearedRoute (id : String) (row : RouteRow) : RouteRow :=
  { row with appId := clearApp id row.appId }

def clearedSshRoute (id : String) (row : SshRoute) : SshRoute :=
  { row with appId := clearApp id row.appId }

/-- Routes stay when their application goes, and no longer name it. -/
def withoutApp (id : String) (database : Database) : Database :=
  if database.apps.any fun app => app.id = id then
    { database with
      apps := database.apps.filter fun app => app.id ≠ id
      routes := database.routes.map (clearedRoute id)
      sshRoutes := database.sshRoutes.map (clearedSshRoute id) }
  else database

def deleteFromApps (id : String) : Effect Session StoreError Unit := fun session =>
  (.ok (), { session with database := withoutApp id session.database })

/-- `DELETE FROM apps WHERE id = ?1`, given to `Store::execute`. -/
def executeDeleteApp (id : String) : Effect Store StoreError Unit := withConn (deleteFromApps id)

theorem executeDeleteApp_unlocked (id : String) (database : Database) (master : Bytes) :
    executeDeleteApp id (.unlocked database master) =
      (.ok (), .unlocked (withoutApp id database) master) :=
  rfl

theorem withoutApp_of_mem {database : Database} {app : App} (happ : app ∈ database.apps) :
    withoutApp app.id database =
      { database with
        apps := database.apps.filter fun other => other.id ≠ app.id
        routes := database.routes.map (clearedRoute app.id)
        sshRoutes := database.sshRoutes.map (clearedSshRoute app.id) } := by
  rw [withoutApp, if_pos]
  rw [List.any_eq_true]
  exact ⟨app, happ, decide_eq_true rfl⟩

end Deleting

section Constraints

variable {database : Database} {id : String}

theorem referencesApp_clearApp {appId : Option String}
    (h : referencesApp database appId = true) {kept : Database}
    (hkept : kept.apps = database.apps.filter fun app => app.id ≠ id) :
    referencesApp kept (clearApp id appId) = true := by
  rw [clearApp]
  split
  · rfl
  · rename_i hother
    cases appId with
    | none => rfl
    | some required =>
        rw [referencesApp, Option.all_some, List.any_eq_true] at h ⊢
        obtain ⟨app, happ, hid⟩ := h
        rw [decide_eq_true_eq] at hid
        subst hid
        refine ⟨app, ?_, decide_eq_true rfl⟩
        rw [hkept]
        refine List.mem_filter.mpr ⟨happ, decide_eq_true fun hsame => hother ?_⟩
        rw [hsame]

theorem wellFormed_withoutApp (hwell : WellFormed database) (id : String) :
    WellFormed (withoutApp id database) := by
  rw [withoutApp]
  split
  · exact {
      certs := hwell.certs
      keys := hwell.keys
      sshKeys := hwell.sshKeys
      caCerts := hwell.caCerts
      apps := Table.sound_of_sublist hwell.apps List.filter_sublist fun _ _ _ => rfl
      integrity := hwell.integrity
      auditLog := hwell.auditLog
      routes := by
        constructor
        · intro column hcolumn
          have hnodup := hwell.routes.1 column hcolumn
          obtain rfl := List.mem_singleton.mp hcolumn
          simpa [routes, clearedRoute, Function.comp_def] using hnodup
        · intro row hrow
          obtain ⟨route, hroute, rfl⟩ := List.mem_map.mp hrow
          have hreferences := hwell.routes.2 route hroute
          simp only [routes, Bool.and_eq_true] at hreferences ⊢
          exact ⟨hreferences.1, referencesApp_clearApp hreferences.2 rfl⟩
      sshRoutes := by
        constructor
        · intro column hcolumn
          have hnodup := hwell.sshRoutes.1 column hcolumn
          obtain rfl := List.mem_singleton.mp hcolumn
          simpa [sshRoutes, clearedSshRoute, Function.comp_def] using hnodup
        · intro row hrow
          obtain ⟨route, hroute, rfl⟩ := List.mem_map.mp hrow
          have hreferences := hwell.sshRoutes.2 route hroute
          simp only [sshRoutes, Bool.and_eq_true] at hreferences ⊢
          exact ⟨hreferences.1, referencesApp_clearApp hreferences.2 rfl⟩ }
  · exact hwell

end Constraints

section Eligibility

variable {database : Database} {exePath remoteHost remoteIp : Option String}

/-- A row of the table is a route that the query does not pass over. -/
def eligibleIn (database : Database) (row : RouteRow)
    (exePath remoteHost remoteIp : Option String) : Bool :=
  eligible (queryOf database exePath remoteHost remoteIp) (readRoute row)

/-- The destination is one that the row is for. -/
def destinationMatches (row : RouteRow) (remoteHost remoteIp : Option String) : Bool :=
  hostMatches (readRoute row)
    { appId := none, remoteHost := remoteHost, remoteIp := remoteIp }

theorem appId_queryOf_eq_some_iff (hwell : WellFormed database) {id : String} :
    (queryOf database exePath remoteHost remoteIp).appId = some id ↔
      ∃ app ∈ database.apps, exePath = some app.exePath ∧ app.id = id := by
  constructor
  · intro hregistered
    cases exePath with
    | none => cases hregistered
    | some path =>
        obtain ⟨app, happ, rfl, hid⟩ := of_registeredAppId hregistered
        exact ⟨app, happ, rfl, hid⟩
  · rintro ⟨app, happ, rfl, rfl⟩
    exact registeredAppId_of_mem hwell.apps happ

/-- An executable is registered as another application, or as the one that goes. -/
theorem appId_queryOf_withoutApp (hwell : WellFormed database) {app : App}
    (happ : app ∈ database.apps) {id : String} :
    (queryOf (withoutApp app.id database) exePath remoteHost remoteIp).appId = some id ↔
      (queryOf database exePath remoteHost remoteIp).appId = some id ∧ id ≠ app.id := by
  rw [appId_queryOf_eq_some_iff (wellFormed_withoutApp hwell app.id),
    appId_queryOf_eq_some_iff hwell, withoutApp_of_mem happ]
  simp only [List.mem_filter, decide_eq_true_eq]
  constructor
  · rintro ⟨other, ⟨hother, hne⟩, hpath, rfl⟩
    exact ⟨⟨other, hother, hpath, rfl⟩, hne⟩
  · rintro ⟨⟨other, hother, hpath, rfl⟩, hne⟩
    exact ⟨other, ⟨hother, hne⟩, hpath, rfl⟩

/-- A route of another application, or of none, is eligible as before. -/
theorem eligibleIn_withoutApp_of_ne (hwell : WellFormed database) {app : App}
    (happ : app ∈ database.apps) {row : RouteRow} (hother : row.appId ≠ some app.id) :
    eligibleIn (withoutApp app.id database) (clearedRoute app.id row) exePath remoteHost remoteIp =
      eligibleIn database row exePath remoteHost remoteIp := by
  have hrow : clearedRoute app.id row = row := by
    rw [clearedRoute, clearApp, if_neg hother]
  have happs : appMatches (readRoute row)
        (queryOf (withoutApp app.id database) exePath remoteHost remoteIp) =
      appMatches (readRoute row) (queryOf database exePath remoteHost remoteIp) := by
    rw [Bool.eq_iff_iff, appMatches_eq_true_iff, appMatches_eq_true_iff]
    refine forall₂_congr fun required hrequired => ?_
    rw [appId_queryOf_withoutApp hwell happ, and_iff_left]
    rintro rfl
    exact hother hrequired
  rw [hrow, eligibleIn, eligibleIn, eligible, eligible, happs]
  rfl

/-- A route of the application is afterwards for all applications. -/
theorem eligibleIn_withoutApp_of_eq {app : App} {row : RouteRow} (hrow : row.appId = some app.id) :
    eligibleIn (withoutApp app.id database) (clearedRoute app.id row) exePath remoteHost remoteIp =
      (decide (row.requireBoth = 0) || destinationMatches row remoteHost remoteIp) := by
  have hcleared : clearedRoute app.id row = { row with appId := none } := by
    rw [clearedRoute, clearApp, if_pos hrow]
  have happs : appMatches (readRoute { row with appId := none })
      (queryOf (withoutApp app.id database) exePath remoteHost remoteIp) = true :=
    appMatches_eq_true_iff.mpr fun _ hrequired => by cases hrequired
  rw [hcleared, eligibleIn, eligible, happs, Bool.true_and, Bool.true_or]
  by_cases hboth : row.requireBoth = 0
  · rw [if_neg (by simpa [readRoute] using hboth), decide_eq_true hboth, Bool.true_or]
  · rw [if_pos (by simpa [readRoute] using hboth), decide_eq_false hboth, Bool.false_or]
    rfl

/-- Before, it is for the application itself and, unless both are required, for the
destination. -/
theorem eligibleIn_of_eq (hwell : WellFormed database) {app : App} (happ : app ∈ database.apps)
    {row : RouteRow} (hrow : row.appId = some app.id) :
    eligibleIn database row exePath remoteHost remoteIp =
      if row.requireBoth = 0 then
        decide (exePath = some app.exePath) || destinationMatches row remoteHost remoteIp
      else decide (exePath = some app.exePath) && destinationMatches row remoteHost remoteIp := by
  have hids : (database.apps.map (·.id)).Nodup := hwell.apps.1 ("id", (·.id)) List.mem_cons_self
  have happs : appMatches (readRoute row) (queryOf database exePath remoteHost remoteIp) =
      decide (exePath = some app.exePath) := by
    rw [Bool.eq_iff_iff, appMatches_eq_true_iff, decide_eq_true_eq]
    constructor
    · intro hrequired
      obtain ⟨other, hother, hpath, hid⟩ :=
        (appId_queryOf_eq_some_iff hwell).mp (hrequired app.id hrow)
      rw [hpath, List.inj_on_of_nodup_map hids hother happ hid]
    · intro hpath required hrequired
      obtain rfl := Option.some.inj (hrow.symm.trans hrequired)
      exact (appId_queryOf_eq_some_iff hwell).mpr ⟨app, happ, hpath, rfl⟩
  rw [eligibleIn, eligible, happs]
  by_cases hboth : row.requireBoth = 0
  · rw [if_neg (by simpa [readRoute] using hboth), if_pos hboth]
    rfl
  · rw [if_pos (by simpa [readRoute] using hboth), if_neg hboth]
    rfl

/-- The route is for the application only, and what is asked for lies outside of it. -/
def Widened (app : App) (row : RouteRow) (exePath remoteHost remoteIp : Option String) : Prop :=
  row.appId = some app.id ∧ exePath ≠ some app.exePath ∧
    (if row.requireBoth = 0 then destinationMatches row remoteHost remoteIp = false
      else destinationMatches row remoteHost remoteIp = true)

/-- The routes stay, and no query loses one. A query gains a route exactly if the route was
for the application that is removed, and the query was passed over for not being from it. -/
theorem removal_of_app (hwell : WellFormed database) {app : App} (happ : app ∈ database.apps)
    (master : Bytes) :
    ∃ after, executeDeleteApp app.id (.unlocked database master) =
        (.ok (), .unlocked after master) ∧
      after.routes = database.routes.map (clearedRoute app.id) ∧ WellFormed after ∧
      ∀ row ∈ database.routes, ∀ exePath remoteHost remoteIp,
        (eligibleIn after (clearedRoute app.id row) exePath remoteHost remoteIp = true ↔
          eligibleIn database row exePath remoteHost remoteIp = true ∨
            Widened app row exePath remoteHost remoteIp) ∧
        (Widened app row exePath remoteHost remoteIp →
          eligibleIn database row exePath remoteHost remoteIp = false) := by
  refine ⟨_, executeDeleteApp_unlocked app.id database master,
    by rw [withoutApp_of_mem happ], wellFormed_withoutApp hwell app.id, ?_⟩
  intro row _ exePath remoteHost remoteIp
  by_cases hrow : row.appId = some app.id
  · rw [eligibleIn_withoutApp_of_eq hrow, eligibleIn_of_eq hwell happ hrow, Widened]
    by_cases hboth : row.requireBoth = 0 <;> by_cases hpath : exePath = some app.exePath <;>
      cases destinationMatches row remoteHost remoteIp <;> simp [hrow, hboth, hpath]
  · rw [eligibleIn_withoutApp_of_ne hwell happ hrow, Widened]
    simp [hrow]

end Eligibility

section Widening

/-- A certificate for one application, and for no destination. -/
def codeOnlyDatabase : Database :=
  { certs := [
      { id := "c1", label := "Laptop", certDer := [48], fingerprint := "f1", subject := "CN=laptop",
        issuer := "CN=ca", notBefore := 0, notAfter := 1, createdAt := 0 }]
    apps := [
      { id := "a1", label := "VSCode", exePath := "/usr/bin/code",
        exeHash := String.ofList (List.replicate 64 '0'), registeredAt := 0 }]
    routes := [
      { id := "r1", certId := "c1", appId := some "a1", matchType := "hostname", pattern := none,
        requireBoth := 1, priority := 0, createdAt := 0 }] }

theorem wellFormed_codeOnly : WellFormed codeOnlyDatabase := by
  constructor <;> constructor <;> decide

/-- When the application goes, any other one is given its certificate. -/
theorem codeOnly_route_widens :
    ∃ app ∈ codeOnlyDatabase.apps, ∃ row ∈ codeOnlyDatabase.routes,
      WellFormed codeOnlyDatabase ∧
        (executeDeleteApp app.id (.unlocked codeOnlyDatabase [7])).2 =
          .unlocked (withoutApp app.id codeOnlyDatabase) [7] ∧
        eligibleIn (withoutApp app.id codeOnlyDatabase) (clearedRoute app.id row)
          (some "/usr/bin/curl") none (some "203.0.113.9") = true ∧
        eligibleIn codeOnlyDatabase row (some "/usr/bin/curl") none (some "203.0.113.9") = false :=
  ⟨_, List.mem_cons_self, _, List.mem_cons_self, wellFormed_codeOnly, rfl, by decide, by decide⟩

theorem removal_of_code :
    ∃ after, executeDeleteApp "a1" (.unlocked codeOnlyDatabase [7]) =
        (.ok (), .unlocked after [7]) ∧
      after.routes = codeOnlyDatabase.routes.map (clearedRoute "a1") ∧ WellFormed after := by
  obtain ⟨after, hdeleted, hroutes, hafter, -⟩ :=
    removal_of_app wellFormed_codeOnly List.mem_cons_self [7]
  exact ⟨after, hdeleted, hroutes, hafter⟩

end Widening

end TrafficCone.AppRemoval
