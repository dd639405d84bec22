import Mathlib.Data.List.Nodup
import TrafficCone.BackupRoundTrip
import TrafficCone.CommittedStatements
import TrafficCone.RouteResolution

namespace TrafficCone.SplitReads

open TrafficCone.Outcomes
open TrafficCone.StoreModels
open TrafficCone.StoreListing
open TrafficCone.RouteResolution
open TrafficCone.DatabaseTables
open TrafficCone.BackupRoundTrip
open TrafficCone.CommittedStatements

/-- `resolveRoute` when the two tables are read at different times, as other processes
write between the two reads. -/
def resolveRouteAcross (earlier later : Store) (exePath remoteHost remoteIp : Option String) :
    Outcome StoreError (Option String) := do
  let routes ← listRoutes earlier
  let apps ← listApps later
  pure (selectRoute routes
    { appId := registeredAppId apps exePath
      remoteHost := remoteHost
      remoteIp := remoteIp })

theorem resolveRouteAcross_self (store : Store) (exePath remoteHost remoteIp : Option String) :
    resolveRouteAcross store store exePath remoteHost remoteIp =
      resolveRoute store exePath remoteHost remoteIp := rfl

section Decisions

variable {first second : Query} {route : Route}

theorem specificity_congr (happ : appMatches route first = appMatches route second)
    (hhost : hostMatches route first = hostMatches route second) :
    specificity route first = specificity route second := by
  rw [specificity, specificity, happ, hhost]

/-- A decision depends on the application only through the routes it is compared with. -/
theorem considerRoute_congr (happ : appMatches route first = appMatches route second)
    (hhost : hostMatches route first = hostMatches route second)
    (best : Option (Int × Int × String)) :
    considerRoute first best route = considerRoute second best route := by
  simp only [considerRoute, happ, hhost, specificity_congr happ hhost]

theorem selectRoute_congr {routes : List Route}
    (happ : ∀ route ∈ routes, appMatches route first = appMatches route second)
    (hhost : ∀ route ∈ routes, hostMatches route first = hostMatches route second) :
    selectRoute routes first = selectRoute routes second := by
  have hfold : ∀ best, routes.foldl (considerRoute first) best =
      routes.foldl (considerRoute second) best := by
    induction routes with
    | nil => intro best; rfl
    | cons route routes ih =>
        intro best
        rw [List.forall_mem_cons] at happ hhost
        rw [List.foldl_cons, List.foldl_cons, considerRoute_congr happ.1 hhost.1,
          ih happ.2 hhost.2]
  rw [selectRoute, selectRoute, hfold]

end Decisions

section Apps

variable {database : Database}

/-- No statement changes or deletes an application. -/
theorem apps_commit (database : Database) (statement : Statement) :
    ∃ added, (commit database statement).apps = database.apps ++ added := by
  have hchange := change_commit database statement
  generalize commit database statement = other at hchange ⊢
  cases hchange with
  | @app row hunique => exact ⟨[row], rfl⟩
  | _ => exact ⟨[], (List.append_nil _).symm⟩

theorem apps_commitAll (database : Database) (statements : List Statement) :
    ∃ added, (commitAll database statements).apps = database.apps ++ added := by
  induction statements generalizing database with
  | nil => exact ⟨[], (List.append_nil _).symm⟩
  | cons statement statements ih =>
      obtain ⟨added, hadded⟩ := apps_commit database statement
      obtain ⟨more, hmore⟩ := ih (commit database statement)
      refine ⟨added ++ more, ?_⟩
      rw [commitAll, List.foldl_cons]
      rw [commitAll] at hmore
      rw [hmore, hadded, List.append_assoc]

theorem mem_orderByLabel {ρ : Type} {label : ρ → String} {rows : List ρ} {row : ρ} :
    row ∈ orderByLabel label rows ↔ row ∈ rows :=
  (List.perm_insertionSort _ rows).mem_iff

theorem registeredAppId_of_mem (hsound : apps.Sound database) {app : App}
    (happ : app ∈ database.apps) :
    registeredAppId (orderByLabel (·.label) database.apps) (some app.exePath) = some app.id := by
  have hpaths : (database.apps.map (·.exePath)).Nodup :=
    hsound.1 ("exe_path", (·.exePath)) (by simp [apps])
  have hsome : ((orderByLabel (·.label) database.apps).find? fun other =>
      other.exePath = app.exePath).isSome = true := by
    rw [List.find?_isSome]
    exact ⟨app, mem_orderByLabel.mpr happ, by simp⟩
  obtain ⟨found, hfound⟩ := Option.isSome_iff_exists.mp hsome
  have hmem : found ∈ database.apps := mem_orderByLabel.mp (List.mem_of_find?_eq_some hfound)
  have hpath : found.exePath = app.exePath := by simpa using List.find?_some hfound
  obtain rfl : found = app := List.inj_on_of_nodup_map hpaths hmem happ hpath
  rw [registeredAppId, Option.bind_some, hfound, Option.map_some]

theorem of_registeredAppId {path id : String}
    (h : registeredAppId (orderByLabel (·.label) database.apps) (some path) = some id) :
    ∃ app ∈ database.apps, app.exePath = path ∧ app.id = id := by
  rw [registeredAppId, Option.bind_some, Option.map_eq_some_iff] at h
  obtain ⟨app, hfound, hid⟩ := h
  exact ⟨app, mem_orderByLabel.mp (List.mem_of_find?_eq_some hfound),
    by simpa using List.find?_some hfound, hid⟩

theorem mem_apps_of_appId (hwell : WellFormed database) {route : Route}
    (hroute : route ∈ routesOf database) {id : String} (hid : route.appId = some id) :
    ∃ app ∈ database.apps, app.id = id := by
  obtain ⟨row, hrow, rfl⟩ := List.mem_map.mp hroute
  have hmem : row ∈ database.routes := (List.perm_insertionSort _ _).mem_iff.mp hrow
  have hreferences := hwell.routes.2 row hmem
  simp only [routes, referencesApp, Bool.and_eq_true, Option.all_eq_true] at hreferences
  simpa using hreferences.2 id hid

/-- An application registered in the meantime makes no difference to a route that was
there before: the route names none, or one that was there. -/
theorem appMatches_commitAll (hwell : WellFormed database) (statements : List Statement)
    (exePath remoteHost remoteIp : Option String) {route : Route}
    (hroute : route ∈ routesOf database) :
    appMatches route (queryOf (commitAll database statements) exePath remoteHost remoteIp) =
      appMatches route (queryOf database exePath remoteHost remoteIp) := by
  have hlater := (wellFormed_commitAll hwell statements).apps
  obtain ⟨added, hadded⟩ := apps_commitAll database statements
  cases exePath with
  | none => rfl
  | some path =>
      by_cases hregistered : ∃ app ∈ database.apps, app.exePath = path
      · obtain ⟨app, happ, rfl⟩ := hregistered
        have hstill : app ∈ (commitAll database statements).apps := by
          rw [hadded]
          exact List.mem_append_left _ happ
        simp only [appMatches, queryOf, registeredAppId_of_mem hwell.apps happ,
          registeredAppId_of_mem hlater hstill]
      · have hnone : registeredAppId (orderByLabel (·.label) database.apps) (some path) =
            none := by
          rw [Option.eq_none_iff_forall_ne_some]
          intro id hid
          obtain ⟨app, happ, hpath, -⟩ := of_registeredAppId hid
          exact hregistered ⟨app, happ, hpath⟩
        cases hlate : registeredAppId
            (orderByLabel (·.label) (commitAll database statements).apps) (some path) with
        | none => simp only [appMatches, queryOf, hnone, hlate]
        | some id =>
            cases hrequired : route.appId with
            | none => simp only [appMatches, queryOf, hrequired]
            | some required =>
                -- The late application has an id of its own.
                obtain ⟨other, hother, hotherId⟩ := mem_apps_of_appId hwell hroute hrequired
                obtain ⟨app, happ, hpath, hid⟩ := of_registeredAppId hlate
                have hids : ((commitAll database statements).apps.map (·.id)).Nodup :=
                  hlater.1 ("id", (·.id)) (by simp [apps])
                have hdifferent : required ≠ id := by
                  intro hsame
                  have hstill : other ∈ (commitAll database statements).apps := by
                    rw [hadded]
                    exact List.mem_append_left _ hother
                  obtain rfl : other = app := List.inj_on_of_nodup_map hids hstill happ
                    (hotherId.trans (hsame.trans hid.symm))
                  exact hregistered ⟨other, hother, hpath⟩
                simp [appMatches, queryOf, hrequired, hnone, hlate, hdifferent]

end Apps

/-- However others write between the two reads, the decision is that of the first moment. -/
theorem resolveRouteAcross_commitAll {database : Database} (hwell : WellFormed database)
    (statements : List Statement) (master : Bytes)
    (exePath remoteHost remoteIp : Option String) :
    resolveRouteAcross (.unlocked database master)
        (.unlocked (commitAll database statements) master) exePath remoteHost remoteIp =
      resolveRoute (.unlocked database master) exePath remoteHost remoteIp := by
  have hselected : selectRoute (routesOf database)
      (queryOf (commitAll database statements) exePath remoteHost remoteIp) =
        selectRoute (routesOf database) (queryOf database exePath remoteHost remoteIp) := by
    apply selectRoute_congr
    · intro route hroute
      exact appMatches_commitAll hwell statements exePath remoteHost remoteIp hroute
    · intro route _
      rfl
  rw [resolveRoute_unlocked, ← hselected]
  rfl

def lateApp : App :=
  { id := "a9", label := "aria", exePath := "/usr/bin/aria2c", exeHash := "dd", registeredAt := 9 }

theorem resolveRouteAcross_office :
    resolveRouteAcross (.unlocked officeDatabase [1])
        (.unlocked (commitAll officeDatabase [.insertApp lateApp, .deleteCert "c1"]) [1])
        (some "/usr/bin/aria2c") (some "vpn.example") none =
      resolveRoute (.unlocked officeDatabase [1]) (some "/usr/bin/aria2c") (some "vpn.example")
        none :=
  resolveRouteAcross_commitAll portable_officeDatabase.wellFormed _ _ _ _ _

end TrafficCone.SplitReads
