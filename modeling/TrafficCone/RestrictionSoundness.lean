import TrafficCone.RouteResolution

namespace TrafficCone.RestrictionSoundness

open TrafficCone.Outcomes
open TrafficCone.StoreModels
open TrafficCone.StoreListing
open TrafficCone.RouteResolution
open TrafficCone.FirstMaximumSelection

def Unrestricted (route : Route) : Prop :=
  route.appId = none ∧ route.pattern = none

def StatedRestrictionMet (query : Query) (route : Route) : Prop :=
  (∃ app, route.appId = some app ∧ query.appId = some app) ∨
    ∃ pattern, route.pattern = some pattern ∧
      patternMatches route.matchType pattern query = true

/-- What makes a route fit for a query: it states nothing, or something it
states is met. -/
def ProperlyMatched (query : Query) (route : Route) : Prop :=
  Unrestricted route ∨ StatedRestrictionMet query route

/-- The route states exactly one restriction, the query does not meet it, and
`require_both` is unset: the absent restriction alone makes it eligible. -/
def MatchedByAbsenceOnly (query : Query) (route : Route) : Prop :=
  route.requireBoth = false ∧
    ((∃ app, route.appId = some app ∧ route.pattern = none ∧ query.appId ≠ some app) ∨
      ∃ pattern, route.pattern = some pattern ∧ route.appId = none ∧
        patternMatches route.matchType pattern query = false)

theorem appMatches_of_some {route : Route} {query : Query} {app : String}
    (h : route.appId = some app) : appMatches route query = true ↔ query.appId = some app := by
  unfold appMatches
  rw [h]
  cases query.appId with
  | none => simp
  | some registered => simp [eq_comm]

theorem appMatches_of_none {route : Route} (query : Query) (h : route.appId = none) :
    appMatches route query = true := by
  unfold appMatches
  rw [h]

theorem hostMatches_of_some {route : Route} {pattern : String} (query : Query)
    (h : route.pattern = some pattern) :
    hostMatches route query = patternMatches route.matchType pattern query := by
  unfold hostMatches
  rw [h]

theorem hostMatches_of_none {route : Route} (query : Query) (h : route.pattern = none) :
    hostMatches route query = true := by
  unfold hostMatches
  rw [h]

theorem matchedByAbsenceOnly_iff (query : Query) (route : Route) :
    MatchedByAbsenceOnly query route ↔
      eligible query route = true ∧ ¬ ProperlyMatched query route := by
  unfold MatchedByAbsenceOnly ProperlyMatched Unrestricted StatedRestrictionMet eligible
  cases happ : route.appId with
  | none =>
      rw [appMatches_of_none query happ]
      cases hpattern : route.pattern with
      | none => simp
      | some pattern =>
          rw [hostMatches_of_some query hpattern]
          cases route.requireBoth <;> simp
  | some app =>
      have happMatches := @appMatches_of_some _ query _ happ
      cases hpattern : route.pattern with
      | none =>
          rw [hostMatches_of_none query hpattern]
          cases route.requireBoth <;> simp [happMatches]
      | some pattern =>
          rw [hostMatches_of_some query hpattern]
          cases route.requireBoth <;> simp [happMatches] <;> tauto

/-- Another eligible route is preferred: an earlier one of at least the same
rank, or a later one of a higher rank. -/
def Outranked (query : Query) (before : List Route) (route : Route) (after : List Route) : Prop :=
  (∃ other ∈ before, eligible query other = true ∧ rank query route ≤ rank query other) ∨
    ∃ other ∈ after, eligible query other = true ∧ rank query route < rank query other

theorem chosenRoute_eq_some_iff_not_outranked (routes : List Route) (query : Query)
    (route : Route) :
    chosenRoute routes query = some route ↔
      ∃ before after, routes = before ++ route :: after ∧ eligible query route = true ∧
        ¬ Outranked query before route after := by
  simp only [chosenRoute, firstMaximum_eq_some_iff, Outranked, not_or, not_exists, not_and,
    not_le, not_lt]

def ChosenRouteIsMatched (database : Database)
    (exePath remoteHost remoteIp : Option String) : Prop :=
  ∀ master certId,
    resolveRoute (.unlocked database master) exePath remoteHost remoteIp = .ok (some certId) →
      ∃ route ∈ routesOf database, route.certId = certId ∧
        ProperlyMatched (queryOf database exePath remoteHost remoteIp) route

/-- The router's answer fits the query exactly when every route that is eligible
by an absent restriction alone is outranked, or shares its certificate with a
route that fits. -/
theorem chosenRouteIsMatched_iff (database : Database)
    (exePath remoteHost remoteIp : Option String) :
    ChosenRouteIsMatched database exePath remoteHost remoteIp ↔
      ∀ before route after, routesOf database = before ++ route :: after →
        MatchedByAbsenceOnly (queryOf database exePath remoteHost remoteIp) route →
          Outranked (queryOf database exePath remoteHost remoteIp) before route after ∨
            ∃ other ∈ routesOf database, other.certId = route.certId ∧
              ProperlyMatched (queryOf database exePath remoteHost remoteIp) other := by
  unfold ChosenRouteIsMatched
  simp only [resolveRoute_unlocked, Outcome.ok.injEq, selectRoute_eq_chosenRoute,
    Option.map_eq_some_iff]
  constructor
  · intro hmatched before route after hsplit habsent
    by_cases houtranked :
        Outranked (queryOf database exePath remoteHost remoteIp) before route after
    · exact Or.inl houtranked
    · right
      have heligible := ((matchedByAbsenceOnly_iff _ _).mp habsent).1
      have hchosen := (chosenRoute_eq_some_iff_not_outranked _ _ _).mpr
        ⟨before, after, hsplit, heligible, houtranked⟩
      exact hmatched [] route.certId ⟨route, hchosen, rfl⟩
  · rintro hcondition master certId ⟨route, hchosen, rfl⟩
    by_cases hproper :
        ProperlyMatched (queryOf database exePath remoteHost remoteIp) route
    · exact ⟨route, chosenRoute_mem hchosen, rfl, hproper⟩
    · obtain ⟨before, after, hsplit, heligible, houtranked⟩ :=
        (chosenRoute_eq_some_iff_not_outranked _ _ _).mp hchosen
      have habsent := (matchedByAbsenceOnly_iff _ _).mpr ⟨heligible, hproper⟩
      exact (hcondition before route after hsplit habsent).resolve_left houtranked

/-- One certificate, assigned to one application by a route without a host. -/
def appOnlyDatabase : Database :=
  { certs := [
      { id := "c1", label := "Laptop", certDer := [48], fingerprint := "f1", subject := "CN=laptop",
        issuer := "CN=ca", notBefore := 0, notAfter := 1, createdAt := 0 }]
    apps := [
      { id := "a1", label := "VSCode", exePath := "/usr/bin/code",
        exeHash := String.ofList (List.replicate 64 '0'), registeredAt := 0 }]
    routes := [
      { id := "r1", certId := "c1", appId := some "a1", matchType := "hostname", pattern := none,
        requireBoth := 0, priority := 0, createdAt := 0 }] }

/-- The route of `/usr/bin/code` is chosen for `/usr/bin/curl`. -/
theorem appOnly_route_chosen_for_another_app :
    ¬ ChosenRouteIsMatched appOnlyDatabase (some "/usr/bin/curl") none (some "203.0.113.9") := by
  intro hmatched
  obtain ⟨route, hmem, -, hproper⟩ := hmatched [] "c1" (by decide)
  have hroute : route = readRoute (appOnlyDatabase.routes.head (by decide)) := by
    simpa [routesOf, orderRoutes, appOnlyDatabase] using hmem
  subst hroute
  rcases hproper with ⟨happ, -⟩ | ⟨app, -, hregistered⟩ | ⟨pattern, hpattern, -⟩
  · exact absurd happ (by decide)
  · have hnone : (queryOf appOnlyDatabase (some "/usr/bin/curl") none
        (some "203.0.113.9")).appId = none := by decide
    rw [hnone] at hregistered
    cases hregistered
  · exact absurd hpattern (by simp [readRoute, appOnlyDatabase])

end TrafficCone.RestrictionSoundness
