import TrafficCone.FirstDestination
import TrafficCone.RestrictionSoundness

namespace TrafficCone.BoundDestinations

open TrafficCone.Outcomes
open TrafficCone.StoreModels
open TrafficCone.StoreListing
open TrafficCone.LinkedCrates
open TrafficCone.ProcReaders
open TrafficCone.ProcessMonitoring
open TrafficCone.RouteResolution
open TrafficCone.RestrictionSoundness
open TrafficCone.PidRouting
open TrafficCone.FirstDestination

/-- A route that requires both an application and a destination, and names both. -/
def RequiresBoth (row : RouteRow) : Prop :=
  row.requireBoth ≠ 0 ∧ row.appId.isSome = true ∧ row.pattern.isSome = true

instance : DecidablePred RequiresBoth := fun row =>
  inferInstanceAs (Decidable
    (row.requireBoth ≠ 0 ∧ row.appId.isSome = true ∧ row.pattern.isSome = true))

/-- The route's application is the executable, and its pattern, which is not one for host
names, matches the address. -/
def Binds (database : Database) (row : RouteRow) (exePath ip : String) : Prop :=
  (∃ app ∈ database.apps, row.appId = some app.id ∧ app.exePath = exePath) ∧
    ∃ pattern, row.pattern = some pattern ∧ readMatchType row.matchType ≠ .hostname ∧
      patternMatches (readMatchType row.matchType) pattern
        (queryOf database (some exePath) none (some ip)) = true

theorem mem_routesOf_iff {database : Database} {route : Route} :
    route ∈ routesOf database ↔ ∃ row ∈ database.routes, readRoute row = route := by
  rw [routesOf, List.mem_map]
  simp only [orderRoutes, List.mem_insertionSort]

theorem exists_app_of_registeredAppId {database : Database} {exePath appId : String}
    (h : registeredAppId (orderByLabel (·.label) database.apps) (some exePath) = some appId) :
    ∃ app ∈ database.apps, app.id = appId ∧ app.exePath = exePath := by
  rw [registeredAppId, Option.bind_some, Option.map_eq_some_iff] at h
  obtain ⟨app, hfound, hid⟩ := h
  have hpath := List.find?_some hfound
  have hmem := List.mem_of_find?_eq_some hfound
  rw [orderByLabel, List.mem_insertionSort] at hmem
  exact ⟨app, hmem, hid, of_decide_eq_true hpath⟩

/-- An eligible route that requires both has matched both. -/
theorem matches_of_eligible {row : RouteRow} {query : Query} (hrow : RequiresBoth row)
    (heligible : eligible query (readRoute row) = true) :
    (∃ appId, row.appId = some appId ∧ query.appId = some appId) ∧
      ∃ pattern, row.pattern = some pattern ∧
        patternMatches (readMatchType row.matchType) pattern query = true := by
  obtain ⟨hboth, happ, hpattern⟩ := hrow
  obtain ⟨appId, happ⟩ := Option.isSome_iff_exists.mp happ
  obtain ⟨pattern, hpattern⟩ := Option.isSome_iff_exists.mp hpattern
  have hrequired : (readRoute row).requireBoth = true := decide_eq_true hboth
  rw [eligible, if_pos hrequired, Bool.and_eq_true,
    appMatches_of_some (show (readRoute row).appId = some appId from happ),
    hostMatches_of_some query (show (readRoute row).pattern = some pattern from hpattern)]
    at heligible
  exact ⟨⟨appId, happ, heligible.1⟩, pattern, hpattern, heligible.2⟩

theorem patternMatches_without_host {matchType : MatchType} {pattern : String} {query : Query}
    (hhost : query.remoteHost = none) (h : patternMatches matchType pattern query = true) :
    matchType ≠ .hostname ∧ ∃ ip, query.remoteIp = some ip := by
  cases hip : query.remoteIp with
  | none => cases matchType <;> simp [patternMatches, hhost, hip] at h
  | some ip =>
      refine ⟨?_, ip, rfl⟩
      rintro rfl
      simp [patternMatches, hhost] at h

theorem binds_of_eligible {database : Database}
    (hrows : ∀ row ∈ database.routes, RequiresBoth row) {exePath : String} {ip : Option String}
    {used : Route} (hused : used ∈ eligibleRoutes database exePath ip) :
    ∃ address, ip = some address ∧
      ∃ row ∈ database.routes, row.certId = used.certId ∧ Binds database row exePath address := by
  obtain ⟨hmem, heligible⟩ := mem_eligibleRoutes.mp hused
  obtain ⟨row, hrow, rfl⟩ := mem_routesOf_iff.mp hmem
  obtain ⟨⟨appId, happId, hquery⟩, pattern, hpattern, hmatches⟩ :=
    matches_of_eligible (hrows row hrow) heligible
  obtain ⟨app, happ, rfl, hpath⟩ := exists_app_of_registeredAppId hquery
  obtain ⟨hhost, address, haddress⟩ := patternMatches_without_host rfl hmatches
  obtain rfl : ip = some address := haddress
  exact ⟨address, rfl, row, hrow, rfl, ⟨app, happ, happId, hpath⟩, pattern, hpattern, hhost,
    hmatches⟩

/-- The fallback without an address finds nothing. -/
theorem resolveRoute_without_address {database : Database}
    (hrows : ∀ row ∈ database.routes, RequiresBoth row) (master : Bytes) (exePath : String) :
    resolveRoute (.unlocked database master) (some exePath) none none = .ok none := by
  rw [resolveRoute_unlocked, selectRoute_eq_usedRoute]
  cases hused : usedRoute database exePath none with
  | none => rfl
  | some used =>
      obtain ⟨address, haddress, -⟩ := binds_of_eligible hrows (usedRoute_mem hused)
      cases haddress

/-- Where every route requires both, a certificate is found only for the executable and
the address of a connection to which a route binds it. -/
theorem routed_only_where_bound (crates : Crates) (system : System) (store : Store) (pid : Nat)
    (knownHashes : KnownHashes) (cache : Cache)
    (hrows : ∀ database master, store = .unlocked database master →
      ∀ row ∈ database.routes, RequiresBoth row)
    {route : ResolvedRoute} {cache' : Cache}
    (hrouted : resolveForPid crates system store pid knownHashes cache = (.ok route, cache')) :
    resolve crates system pid cache = (.ok route.process, cache') ∧
      ∃ database master connections connection row,
        store = .unlocked database master ∧ getConnections system pid = .ok connections ∧
          connection ∈ connections ∧ route.remoteIp = some connection.remoteIp ∧
            row ∈ database.routes ∧ row.certId = route.certId ∧
              Binds database row route.process.exePath connection.remoteIp ∧
                resolveRoute store (some route.process.exePath) none none = .ok none := by
  obtain ⟨process, hresolved, hprocess⟩ := resolveForPid_eq_ok_iff.mp hrouted
  obtain ⟨-, database, master, connections, used, rfl, hconnections, hused, rfl⟩ :=
    routeProcess_eq_ok_iff_usedRoute.mp hprocess
  have hrequired := hrows database master rfl
  obtain ⟨address, haddress, row, hrow, hcert, hbinds⟩ :=
    binds_of_eligible hrequired (usedRoute_mem hused)
  obtain ⟨connection, hconnection, rfl⟩ :=
    List.mem_map.mp (List.mem_of_find?_eq_some haddress)
  exact ⟨hresolved, database, master, connections, connection, row, rfl, hconnections,
    hconnection, haddress, hrow, hcert, hbinds,
    resolveRoute_without_address hrequired master process.exePath⟩

theorem first_destination_is_bound :
    ∃ route : ResolvedRoute, route.certId = "c1" ∧ route.remoteIp = some "198.51.100.7" ∧
      ∃ row ∈ twoDestinationsDatabase.routes, row.certId = route.certId ∧
        Binds twoDestinationsDatabase row route.process.exePath "198.51.100.7" := by
  have hrows : ∀ row ∈ twoDestinationsDatabase.routes, RequiresBoth row := by
    decide
  obtain ⟨-, database, master, connections, connection, row, hstore, -, -, hip, hrow, hcert,
    hbinds, -⟩ := routed_only_where_bound plainCrates twoDestinationsSystem
      (.unlocked twoDestinationsDatabase []) 7 (fun _ => none) (fun _ => none)
      (fun database master hstore => by cases hstore; exact hrows)
      (Effect.eq_of_fst first_destination_is_routed)
  cases hstore
  rw [Option.some.injEq] at hip
  rw [← hip] at hbinds
  exact ⟨_, rfl, rfl, row, hrow, hcert, hbinds⟩

end TrafficCone.BoundDestinations
