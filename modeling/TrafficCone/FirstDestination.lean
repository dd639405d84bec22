import TrafficCone.PidRouting

namespace TrafficCone.FirstDestination

open TrafficCone.Outcomes
open TrafficCone.StoreModels
open TrafficCone.LinkedCrates
open TrafficCone.ProcReaders
open TrafficCone.ProcessMonitoring
open TrafficCone.RouteResolution
open TrafficCone.PidRouting

/-- The routes of a process's executable that match an address, or without an address. -/
def eligibleRoutes (database : Database) (exePath : String) (ip : Option String) : List Route :=
  (routesOf database).filter (eligible (queryOf database (some exePath) none ip))

def routable (database : Database) (exePath ip : String) : Bool :=
  !(eligibleRoutes database exePath (some ip)).isEmpty

/-- The first address in the order of the connections for which there is a route. -/
def firstDestination (database : Database) (exePath : String) (connections : List Connection) :
    Option String :=
  (connections.map (·.remoteIp)).find? (routable database exePath)

def usedRoute (database : Database) (exePath : String) (ip : Option String) : Option Route :=
  chosenRoute (routesOf database) (queryOf database (some exePath) none ip)

theorem mem_eligibleRoutes {database : Database} {exePath : String} {ip : Option String}
    {route : Route} :
    route ∈ eligibleRoutes database exePath ip ↔
      route ∈ routesOf database ∧
        eligible (queryOf database (some exePath) none ip) route = true :=
  List.mem_filter

theorem usedRoute_eq_none_iff {database : Database} {exePath : String} {ip : Option String} :
    usedRoute database exePath ip = none ↔ eligibleRoutes database exePath ip = [] := by
  rw [usedRoute, chosenRoute, FirstMaximumSelection.firstMaximum_eq_none_iff, eligibleRoutes,
    List.filter_eq_nil_iff]
  simp

theorem usedRoute_eq_none_of_not_routable {database : Database} {exePath ip : String}
    (h : routable database exePath ip = false) : usedRoute database exePath (some ip) = none := by
  rw [routable, Bool.not_eq_false', List.isEmpty_iff] at h
  exact usedRoute_eq_none_iff.mpr h

theorem exists_usedRoute_of_routable {database : Database} {exePath ip : String}
    (h : routable database exePath ip = true) :
    ∃ route, usedRoute database exePath (some ip) = some route := by
  rw [← Option.isSome_iff_exists, Option.isSome_iff_ne_none, ne_eq, usedRoute_eq_none_iff]
  rwa [routable, Bool.not_eq_true', List.isEmpty_eq_false_iff] at h

theorem usedRoute_mem {database : Database} {exePath : String} {ip : Option String}
    {used : Route} (h : usedRoute database exePath ip = some used) :
    used ∈ eligibleRoutes database exePath ip := by
  obtain ⟨before, after, hroutes, heligible, -⟩ :=
    (FirstMaximumSelection.firstMaximum_eq_some_iff _ _ _ _).mp h
  exact mem_eligibleRoutes.mpr ⟨by simp [hroutes], heligible⟩

theorem priority_le_of_usedRoute {database : Database} {exePath : String} {ip : Option String}
    {used other : Route} (h : usedRoute database exePath ip = some used)
    (hother : other ∈ eligibleRoutes database exePath ip) : other.priority ≤ used.priority := by
  obtain ⟨before, after, hroutes, -, hbefore, hafter⟩ :=
    (FirstMaximumSelection.firstMaximum_eq_some_iff _ _ _ _).mp h
  obtain ⟨hmem, heligible⟩ := mem_eligibleRoutes.mp hother
  have hrank : ¬ rank (queryOf database (some exePath) none ip) used <
      rank (queryOf database (some exePath) none ip) other := by
    rw [hroutes, List.mem_append, List.mem_cons] at hmem
    rcases hmem with hmem | rfl | hmem
    · exact not_lt.mpr (le_of_lt (hbefore other hmem heligible))
    · exact lt_irrefl _
    · exact not_lt.mpr (hafter other hmem heligible)
  rw [rank_lt_iff, not_or] at hrank
  exact not_lt.mp hrank.1

theorem selectRoute_eq_usedRoute (database : Database) (exePath : String) (ip : Option String) :
    selectRoute (routesOf database) (queryOf database (some exePath) none ip) =
      (usedRoute database exePath ip).map (·.certId) :=
  selectRoute_eq_chosenRoute _ _

/-- The route found for a process depends on its connections by their first destination
only. -/
theorem firstRoute_eq_of_firstDestination (database : Database) (exePath : String)
    (connections : List Connection) :
    firstRoute database exePath connections =
      (usedRoute database exePath (firstDestination database exePath connections)).map
        fun route => (route.certId, firstDestination database exePath connections) := by
  rw [firstDestination, firstRoute, queriedIps]
  induction connections with
  | nil => simp [selectRoute_eq_usedRoute, Function.comp_def]
  | cons connection rest ih =>
      rw [List.map_cons, List.cons_append, List.findSome?_cons, List.map_cons,
        selectRoute_eq_usedRoute]
      cases hroutable : routable database exePath connection.remoteIp with
      | false =>
          rw [usedRoute_eq_none_of_not_routable hroutable,
            List.find?_cons_of_neg (by simp [hroutable])]
          exact ih
      | true =>
          obtain ⟨route, hused⟩ := exists_usedRoute_of_routable hroutable
          rw [List.find?_cons_of_pos (by simp [hroutable]), hused]
          rfl

theorem routeProcess_eq_ok_iff_usedRoute {system : System} {store : Store}
    {knownHashes : KnownHashes} {pid : Nat} {process : ProcessEntry} {route : ResolvedRoute} :
    routeProcess system store knownHashes pid process = .ok route ↔
      binaryReplaced knownHashes process = false ∧
        ∃ database master connections used,
          store = .unlocked database master ∧ getConnections system pid = .ok connections ∧
          usedRoute database process.exePath
            (firstDestination database process.exePath connections) = some used ∧
          route =
            { certId := used.certId
              process := process
              remoteHost := none
              remoteIp := firstDestination database process.exePath connections } := by
  rw [routeProcess_eq_ok_iff]
  apply and_congr_right
  intro _
  constructor
  · rintro ⟨database, master, connections, certId, ip, hstore, hconnections, hfirst, rfl⟩
    rw [firstRoute_eq_of_firstDestination, Option.map_eq_some_iff] at hfirst
    obtain ⟨used, hused, hfound⟩ := hfirst
    cases hfound
    exact ⟨database, master, connections, used, hstore, hconnections, hused, rfl⟩
  · rintro ⟨database, master, connections, used, hstore, hconnections, hused, rfl⟩
    refine ⟨database, master, connections, _, _, hstore, hconnections, ?_, rfl⟩
    rw [firstRoute_eq_of_firstDestination, hused]
    rfl

/-- `/usr/bin/code` has a route to `198.51.100.7` and one of a higher priority to
`203.0.113.9`. -/
def twoDestinationsDatabase : Database :=
  { apps := [
      { id := "a1", label := "VSCode", exePath := "/usr/bin/code",
        exeHash := String.ofList (List.replicate 64 '0'), registeredAt := 0 }]
    routes := [
      { id := "r1", certId := "c1", appId := some "a1", matchType := "ip",
        pattern := some "198.51.100.7", requireBoth := 1, priority := 0, createdAt := 0 },
      { id := "r2", certId := "c2", appId := some "a1", matchType := "ip",
        pattern := some "203.0.113.9", requireBoth := 1, priority := 10, createdAt := 0 }] }

/-- Process 7 runs `/usr/bin/code` and is connected to both destinations. -/
def twoDestinationsSystem : System :=
  { quietSystem [(7, "/usr/bin/code")] [("/usr/bin/code", [])] with
    netTcp := fun _ => some
      ("  sl  local_address rem_address   st\n" ++
        "   0: 0100007F:C350 076433C6:01BB 01\n" ++
        "   1: 0100007F:C351 097100CB:01BB 01\n") }

theorem first_destination_is_routed :
    (resolveForPid plainCrates twoDestinationsSystem (.unlocked twoDestinationsDatabase []) 7
      (fun _ => none) fun _ => none).1 =
        .ok
          { certId := "c1"
            process :=
              { pid := 7
                exePath := "/usr/bin/code"
                exeHash := String.ofList (List.replicate 64 '0')
                startTime := 500 }
            remoteHost := none
            remoteIp := some "198.51.100.7" } := by
  decide +kernel

end TrafficCone.FirstDestination
