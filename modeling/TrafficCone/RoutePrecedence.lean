import TrafficCone.RouteResolution

namespace TrafficCone.RoutePrecedence

open TrafficCone.Outcomes
open TrafficCone.StoreModels
open TrafficCone.StoreListing
open TrafficCone.FirstMaximumSelection
open TrafficCone.RouteResolution

variable (apps : List App) (exePath remoteHost remoteIp : Option String)

def queryFor : Query :=
  { appId := registeredAppId apps exePath
    remoteHost := remoteHost
    remoteIp := remoteIp }

/-- The route names no application, or the one that is registered at the path. -/
def AppMatch (route : Route) : Prop :=
  ∀ required, route.appId = some required →
    ∃ app ∈ apps, exePath = some app.exePath ∧ app.id = required

/-- The route names no destination, or the remote host or address is of its pattern. -/
def HostMatch (route : Route) : Prop :=
  ∀ pattern, route.pattern = some pattern →
    patternMatches route.matchType pattern (queryFor apps exePath remoteHost remoteIp) = true

def Eligible (route : Route) : Prop :=
  (AppMatch apps exePath route ∨ HostMatch apps exePath remoteHost remoteIp route) ∧
    (route.requireBoth = true →
      AppMatch apps exePath route ∧ HostMatch apps exePath remoteHost remoteIp route)

/-- The priority and, among routes of one priority, the specificity. -/
def precedence (route : Route) : Int ×ₗ Int :=
  toLex (route.priority, specificity route (queryFor apps exePath remoteHost remoteIp))

/-- The first of the eligible routes that no eligible route precedes. -/
def StandsFirst (routes : List Route) (route : Route) : Prop :=
  ∃ before after, routes = before ++ route :: after ∧
    Eligible apps exePath remoteHost remoteIp route ∧
    (∀ other ∈ routes, Eligible apps exePath remoteHost remoteIp other →
      precedence apps exePath remoteHost remoteIp other ≤
        precedence apps exePath remoteHost remoteIp route) ∧
    ∀ other ∈ before, Eligible apps exePath remoteHost remoteIp other →
      precedence apps exePath remoteHost remoteIp other ≠
        precedence apps exePath remoteHost remoteIp route

variable {apps exePath remoteHost remoteIp}

/-- Paths are unique, so the first application found at the path is the only one. -/
theorem registeredAppId_eq_some_iff (hdistinct : (apps.map (·.exePath)).Nodup) {id : String} :
    registeredAppId apps exePath = some id ↔
      ∃ app ∈ apps, exePath = some app.exePath ∧ app.id = id := by
  rw [registeredAppId, Option.bind_eq_some_iff]
  constructor
  · rintro ⟨path, rfl, hfound⟩
    obtain ⟨app, happ, hid⟩ := Option.map_eq_some_iff.mp hfound
    have hpath : app.exePath = path := by simpa using List.find?_some happ
    exact ⟨app, List.mem_of_find?_eq_some happ, by rw [hpath], hid⟩
  · rintro ⟨app, happ, rfl, hid⟩
    refine ⟨app.exePath, rfl, Option.map_eq_some_iff.mpr ?_⟩
    cases hfound : apps.find? fun other => other.exePath = app.exePath with
    | none =>
        rw [List.find?_eq_none] at hfound
        exact absurd (by simp) (hfound app happ)
    | some other =>
        have hpath : other.exePath = app.exePath := by simpa using List.find?_some hfound
        have hsame : other = app :=
          List.inj_on_of_nodup_map hdistinct (List.mem_of_find?_eq_some hfound) happ hpath
        exact ⟨other, rfl, by rw [hsame, hid]⟩

theorem appMatches_iff (hdistinct : (apps.map (·.exePath)).Nodup) {route : Route} :
    appMatches route (queryFor apps exePath remoteHost remoteIp) = true ↔
      AppMatch apps exePath route := by
  rw [AppMatch, appMatches, queryFor]
  simp only [← registeredAppId_eq_some_iff hdistinct]
  cases route.appId with
  | none => simp
  | some required =>
      cases registeredAppId apps exePath with
      | none => simp
      | some registered => simp [eq_comm]

theorem hostMatches_iff {route : Route} :
    hostMatches route (queryFor apps exePath remoteHost remoteIp) = true ↔
      HostMatch apps exePath remoteHost remoteIp route := by
  rw [HostMatch, hostMatches]
  cases route.pattern <;> simp

theorem eligible_iff (hdistinct : (apps.map (·.exePath)).Nodup) {route : Route} :
    eligible (queryFor apps exePath remoteHost remoteIp) route = true ↔
      Eligible apps exePath remoteHost remoteIp route := by
  rw [Eligible, ← @appMatches_iff apps exePath remoteHost remoteIp hdistinct, ← hostMatches_iff,
    eligible]
  cases route.requireBoth with
  | false => simp
  | true =>
      rw [if_pos rfl, Bool.and_eq_true]
      constructor
      · exact fun hboth => ⟨Or.inl hboth.1, fun _ => hboth⟩
      · exact fun h => h.2 rfl

/-- Two where the route names an application and a destination and both match, else one. -/
theorem specificity_cases (hdistinct : (apps.map (·.exePath)).Nodup) (route : Route) :
    (specificity route (queryFor apps exePath remoteHost remoteIp) = 2 ∧
        (route.appId.isSome = true ∧ AppMatch apps exePath route) ∧
          (route.pattern.isSome = true ∧ HostMatch apps exePath remoteHost remoteIp route)) ∨
      (specificity route (queryFor apps exePath remoteHost remoteIp) = 1 ∧
        ¬ ((route.appId.isSome = true ∧ AppMatch apps exePath route) ∧
          (route.pattern.isSome = true ∧ HostMatch apps exePath remoteHost remoteIp route))) := by
  rw [← @appMatches_iff apps exePath remoteHost remoteIp hdistinct, ← hostMatches_iff, specificity]
  cases appMatches route (queryFor apps exePath remoteHost remoteIp) <;>
    cases hostMatches route (queryFor apps exePath remoteHost remoteIp) <;>
    cases route.appId <;> cases route.pattern <;> simp

/-- Before the chosen route stand eligible routes of lower precedence only, and behind it
none of a higher one. -/
theorem chosenRoute_eq_some_iff (hdistinct : (apps.map (·.exePath)).Nodup) {routes : List Route}
    {route : Route} :
    chosenRoute routes (queryFor apps exePath remoteHost remoteIp) = some route ↔
      StandsFirst apps exePath remoteHost remoteIp routes route := by
  rw [chosenRoute, firstMaximum_eq_some_iff, StandsFirst]
  simp only [eligible_iff hdistinct]
  constructor
  · rintro ⟨before, after, rfl, heligible, hbefore, hafter⟩
    refine ⟨before, after, rfl, heligible, ?_, fun other hother h => (hbefore other hother h).ne⟩
    intro other hother h
    rcases List.mem_append.mp hother with hearlier | hlater
    · exact (hbefore other hearlier h).le
    · rcases List.mem_cons.mp hlater with rfl | hlater
      · exact le_rfl
      · exact hafter other hlater h
  · rintro ⟨before, after, rfl, heligible, hmaximal, hfirst⟩
    refine ⟨before, after, rfl, heligible, ?_, ?_⟩
    · intro other hother h
      exact lt_of_le_of_ne (hmaximal other (by simp [hother]) h) (hfirst other hother h)
    · intro other hother h
      exact hmaximal other (by simp [hother]) h

variable (exePath remoteHost remoteIp)

/-- The router's answer for any lists of routes and applications that the store can have. -/
theorem resolveRoute_by_precedence (routes : List Route)
    (hdistinct : (apps.map (·.exePath)).Nodup) :
    (∀ store, listRoutes store = .ok routes → listApps store = .ok apps →
      resolveRoute store exePath remoteHost remoteIp =
        .ok (selectRoute routes (queryFor apps exePath remoteHost remoteIp))) ∧
      (selectRoute routes (queryFor apps exePath remoteHost remoteIp) = none ↔
        ∀ route ∈ routes, ¬ Eligible apps exePath remoteHost remoteIp route) ∧
      ∀ certId, selectRoute routes (queryFor apps exePath remoteHost remoteIp) = some certId ↔
        ∃ route, StandsFirst apps exePath remoteHost remoteIp routes route ∧
          route.certId = certId := by
  refine ⟨?_, ?_, ?_⟩
  · intro store hroutes happs
    rw [resolveRoute, hroutes, happs]
    rfl
  · rw [selectRoute_eq_none_iff]
    apply forall₂_congr
    intro route _
    rw [← eligible_iff hdistinct, Bool.not_eq_true]
  · intro certId
    rw [selectRoute_eq_chosenRoute, Option.map_eq_some_iff]
    simp only [chosenRoute_eq_some_iff hdistinct]

/-- Two applications, and three routes of one priority of which the last two are for the
application and the host that ask. -/
theorem resolveRoute_by_precedence_two_apps :
    let apps : List App := [
      { id := "a1", label := "curl", exePath := "/usr/bin/curl", exeHash := "", registeredAt := 0 },
      { id := "a2", label := "git", exePath := "/usr/bin/git", exeHash := "", registeredAt := 0 }]
    let routes : List Route := [
      { id := "r1", certId := "c1", appId := some "a1", matchType := .hostname, pattern := none
        requireBoth := false, priority := 5, createdAt := 0 },
      { id := "r2", certId := "c2", appId := some "a1", matchType := .hostname
        pattern := some "vpn.example", requireBoth := true, priority := 5, createdAt := 1 },
      { id := "r3", certId := "c3", appId := some "a1", matchType := .hostname
        pattern := some "vpn.example", requireBoth := true, priority := 5, createdAt := 2 }]
    selectRoute routes (queryFor apps (some "/usr/bin/curl") (some "vpn.example") none) =
        some "c2" ∧
      ∃ route, StandsFirst apps (some "/usr/bin/curl") (some "vpn.example") none routes route ∧
        route.certId = "c2" := by
  refine ⟨by decide, ?_⟩
  exact ((resolveRoute_by_precedence (some "/usr/bin/curl") (some "vpn.example") none _
    (by decide)).2.2 "c2").mp (by decide)

end TrafficCone.RoutePrecedence
