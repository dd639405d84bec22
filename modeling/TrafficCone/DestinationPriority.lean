import TrafficCone.FirstDestination

namespace TrafficCone.DestinationPriority

open TrafficCone.Outcomes
open TrafficCone.StoreModels
open TrafficCone.StoreListing
open TrafficCone.LinkedCrates
open TrafficCone.ProcReaders
open TrafficCone.ProcessMonitoring
open TrafficCone.RouteResolution
open TrafficCone.PidRouting
open TrafficCone.FirstDestination

/-- No route that matches one of the connections has a higher priority. -/
def HighestPriority (database : Database) (exePath : String) (connections : List Connection)
    (used : Route) : Prop :=
  ∀ connection ∈ connections, ∀ other ∈ eligibleRoutes database exePath (some connection.remoteIp),
    other.priority ≤ used.priority

/-- A PID for which a connection decides is routed by a route of the highest priority. -/
def RoutedByHighestPriority (crates : Crates) (system : System) (store : Store) (pid : Nat)
    (knownHashes : KnownHashes) (cache : Cache) : Prop :=
  ∀ route cache', resolveForPid crates system store pid knownHashes cache = (.ok route, cache') →
    ∀ ip, route.remoteIp = some ip →
      ∀ database master connections, store = .unlocked database master →
        getConnections system pid = .ok connections →
          ∀ used, usedRoute database route.process.exePath (some ip) = some used →
            HighestPriority database route.process.exePath connections used

/-- Each route that matches a connection is outranked by one that matches the first of
the connections for which there is a route. -/
def FirstDestinationLeads (database : Database) (exePath : String)
    (connections : List Connection) : Prop :=
  ∀ ip, firstDestination database exePath connections = some ip →
    ∀ connection ∈ connections,
      ∀ other ∈ eligibleRoutes database exePath (some connection.remoteIp),
        ∃ route ∈ eligibleRoutes database exePath (some ip), other.priority ≤ route.priority

theorem highestPriority_iff {database : Database} {exePath : String} {ip : String} {used : Route}
    (hused : usedRoute database exePath (some ip) = some used) (connections : List Connection) :
    HighestPriority database exePath connections used ↔
      ∀ connection ∈ connections,
        ∀ other ∈ eligibleRoutes database exePath (some connection.remoteIp),
          ∃ route ∈ eligibleRoutes database exePath (some ip), other.priority ≤ route.priority := by
  constructor
  · intro hhighest connection hconnection other hother
    exact ⟨used, usedRoute_mem hused, hhighest connection hconnection other hother⟩
  · intro hleads connection hconnection other hother
    obtain ⟨route, hroute, hpriority⟩ := hleads connection hconnection other hother
    exact le_trans hpriority (priority_le_of_usedRoute hused hroute)

theorem exists_used_of_firstDestination {database : Database} {exePath ip : String}
    {connections : List Connection} (h : firstDestination database exePath connections = some ip) :
    ∃ used, usedRoute database exePath (some ip) = some used :=
  exists_usedRoute_of_routable (List.find?_some h)

/-- The first connection decides, so the highest priority is used exactly if it is
among the routes of that connection. -/
theorem routedByHighestPriority_iff (crates : Crates) (system : System) (store : Store)
    (pid : Nat) (knownHashes : KnownHashes) (cache : Cache) :
    RoutedByHighestPriority crates system store pid knownHashes cache ↔
      ∀ process cache', resolve crates system pid cache = (.ok process, cache') →
        binaryReplaced knownHashes process = false →
          ∀ database master connections, store = .unlocked database master →
            getConnections system pid = .ok connections →
              FirstDestinationLeads database process.exePath connections := by
  constructor
  · intro hhighest process cache' hresolved haccepted database master connections hstore
      hconnections ip hfirst
    obtain ⟨used, hused⟩ := exists_used_of_firstDestination hfirst
    rw [← highestPriority_iff hused]
    have hrouted : routeProcess system store knownHashes pid process =
        .ok { certId := used.certId, process := process, remoteHost := none,
              remoteIp := some ip } := by
      rw [routeProcess_eq_ok_iff_usedRoute]
      exact ⟨haccepted, database, master, connections, used, hstore, hconnections,
        by rw [hfirst, hused], by rw [hfirst]⟩
    exact hhighest _ cache' (resolveForPid_eq_ok_iff.mpr ⟨process, hresolved, hrouted⟩) ip rfl
      database master connections hstore hconnections used hused
  · intro hleads route cache' hfound ip hip database master connections hstore hconnections used
      hused
    obtain ⟨process, hresolved, hrouted⟩ := resolveForPid_eq_ok_iff.mp hfound
    obtain ⟨haccepted, database', master', connections', used', hstore', hconnections', hused',
      rfl⟩ := routeProcess_eq_ok_iff_usedRoute.mp hrouted
    obtain rfl := Outcome.ok.inj (hconnections.symm.trans hconnections')
    obtain ⟨rfl, -⟩ := Store.unlocked.inj (hstore.symm.trans hstore')
    exact (highestPriority_iff hused connections).mpr
      (hleads process cache' hresolved haccepted database master connections hstore hconnections
        ip hip)

/-- The destination that is listed first is routed, by the route of the lower priority. -/
theorem lower_priority_wins :
    ¬ RoutedByHighestPriority plainCrates twoDestinationsSystem
      (.unlocked twoDestinationsDatabase []) 7 (fun _ => none) fun _ => none := by
  intro hhighest
  have hconnections : getConnections twoDestinationsSystem 7 =
      .ok
        [{ remoteIp := "198.51.100.7", remotePort := 443, state := .established },
          { remoteIp := "203.0.113.9", remotePort := 443, state := .established }] := by
    decide +kernel
  have hused : usedRoute twoDestinationsDatabase "/usr/bin/code" (some "198.51.100.7") =
      some (readRoute (twoDestinationsDatabase.routes.get ⟨0, by decide⟩)) := by
    decide +kernel
  have hpriority := hhighest _ _ (Effect.eq_of_fst first_destination_is_routed) "198.51.100.7" rfl
    twoDestinationsDatabase [] _ rfl hconnections _ hused
    { remoteIp := "203.0.113.9", remotePort := 443, state := .established } (by simp)
    (readRoute (twoDestinationsDatabase.routes.get ⟨1, by decide⟩)) (by decide +kernel)
  exact absurd hpriority (by decide)

end TrafficCone.DestinationPriority
