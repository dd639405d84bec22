import TrafficCone.RouteResolution

namespace TrafficCone.DocumentedPrecedence

open TrafficCone.Outcomes
open TrafficCone.StoreModels
open TrafficCone.StoreListing
open TrafficCone.FirstMaximumSelection
open TrafficCone.RouteResolution

/-- The documented order: application and host, above application, above host, above
a route without restriction. -/
def documentedLevel (query : Query) (route : Route) : Option Nat :=
  match route.appId.isSome && appMatches route query,
      route.pattern.isSome && hostMatches route query with
  | true, true => some 3
  | true, false => some 2
  | false, true => some 1
  | false, false => if route.appId.isNone && route.pattern.isNone then some 0 else none

def MoreSpecific (query : Query) (first second : Route) : Prop :=
  ∃ higher lower, documentedLevel query first = some higher ∧
    documentedLevel query second = some lower ∧ lower < higher

/-- An eligible route is not chosen where there is a more specific one of its priority. -/
def KeepsDocumentedOrder (database : Database) (master : Bytes)
    (exePath remoteHost remoteIp : Option String) : Prop :=
  ∀ first ∈ routesOf database, ∀ second ∈ routesOf database,
    eligible (queryOf database exePath remoteHost remoteIp) first = true →
      eligible (queryOf database exePath remoteHost remoteIp) second = true →
        first.priority = second.priority →
          MoreSpecific (queryOf database exePath remoteHost remoteIp) first second →
            resolveRoute (.unlocked database master) exePath remoteHost remoteIp ≠
              .ok (some second.certId)

/-- The first eligible route of the listing is the most specific one of its priority, or
there is one for the application and the host among those. -/
def LeaderIsMostSpecific (routes : List Route) (query : Query) : Prop :=
  ∀ leader, routes.find? (eligible query) = some leader →
    (∃ other ∈ routes, eligible query other = true ∧ other.priority = leader.priority ∧
        documentedLevel query other = some 3) ∨
      ∀ other ∈ routes, eligible query other = true → other.priority = leader.priority →
        ¬ MoreSpecific query other leader

variable {query : Query} {routes : List Route} {leader chosen : Route}

theorem specificity_cases (query : Query) (route : Route) :
    (specificity route query = 2 ∧ documentedLevel query route = some 3) ∨
      (specificity route query = 1 ∧ documentedLevel query route ≠ some 3) := by
  rw [specificity, documentedLevel]
  cases appMatches route query <;> cases hostMatches route query <;>
    cases route.appId <;> cases route.pattern <;> simp

theorem documentedLevel_of_specificity_lt {first second : Route}
    (h : specificity first query < specificity second query) :
    documentedLevel query second = some 3 := by
  rcases specificity_cases query second with ⟨-, hlevel⟩ | ⟨hsecond, -⟩
  · exact hlevel
  · rcases specificity_cases query first with ⟨hfirst, -⟩ | ⟨hfirst, -⟩ <;> omega

theorem documentedLevel_of_specificity_le {first second : Route}
    (h : specificity first query ≤ specificity second query)
    (hfirst : documentedLevel query first = some 3) :
    documentedLevel query second = some 3 := by
  rcases specificity_cases query second with ⟨-, hlevel⟩ | ⟨hsecond, -⟩
  · exact hlevel
  · rcases specificity_cases query first with ⟨hhigh, -⟩ | ⟨-, hlow⟩
    · omega
    · exact absurd hfirst hlow

theorem documentedLevel_le (query : Query) (route : Route) :
    ∀ level, documentedLevel query route = some level → level ≤ 3 := by
  intro level hlevel
  rw [documentedLevel] at hlevel
  cases (route.appId.isSome && appMatches route query) <;>
    cases (route.pattern.isSome && hostMatches route query) <;> grind

theorem not_moreSpecific_of_level {first second : Route}
    (h : documentedLevel query second = some 3) : ¬ MoreSpecific query first second := by
  rintro ⟨higher, lower, hhigher, hlower, hlt⟩
  have hthree : lower = 3 := Option.some_inj.mp (hlower.symm.trans h)
  have := documentedLevel_le query first higher hhigher
  omega

theorem routesOf_pairwise (database : Database) :
    (routesOf database).Pairwise fun first second => second.priority ≤ first.priority := by
  rw [routesOf, List.pairwise_map]
  let listed : RouteRow → RouteRow → Prop := fun first second =>
    second.priority < first.priority ∨
      (first.priority = second.priority ∧ first.createdAt ≤ second.createdAt)
  have htotal : Std.Total listed := ⟨by intro first second; simp only [listed]; omega⟩
  have htrans : IsTrans RouteRow listed := ⟨by intro first second third; simp only [listed]; omega⟩
  refine (List.pairwise_insertionSort listed database.routes).imp ?_
  rintro first second (hlower | ⟨hsame, -⟩)
  · exact le_of_lt hlower
  · exact le_of_eq hsame.symm

theorem rank_le_of_chosenRoute (h : chosenRoute routes query = some chosen) {other : Route}
    (hmem : other ∈ routes) (hother : eligible query other = true) :
    rank query other ≤ rank query chosen := by
  obtain ⟨before, after, rfl, -, hbefore, hafter⟩ := (firstMaximum_eq_some_iff _ _ _ _).mp h
  rcases List.mem_append.mp hmem with hearlier | hlater
  · exact (hbefore other hearlier hother).le
  · rcases List.mem_cons.mp hlater with rfl | hlater
    · exact le_rfl
    · exact hafter other hlater hother

theorem eligible_of_chosenRoute (h : chosenRoute routes query = some chosen) :
    eligible query chosen = true := by
  obtain ⟨before, after, -, heligible, -⟩ := (firstMaximum_eq_some_iff _ _ _ _).mp h
  exact heligible

theorem priority_le_of_rank_le {first second : Route}
    (h : rank query first ≤ rank query second) : first.priority ≤ second.priority := by
  by_contra hlt
  exact absurd h (not_le.mpr ((rank_lt_iff query second first).mpr (Or.inl (by omega))))

theorem specificity_le_of_rank_le {first second : Route}
    (h : rank query first ≤ rank query second) (hpriority : first.priority = second.priority) :
    specificity first query ≤ specificity second query := by
  by_contra hlt
  exact absurd h (not_le.mpr
    ((rank_lt_iff query second first).mpr (Or.inr ⟨hpriority.symm, by omega⟩)))

theorem priority_le_leader
    (hsorted : routes.Pairwise fun first second => second.priority ≤ first.priority)
    (hleader : routes.find? (eligible query) = some leader) {other : Route}
    (hmem : other ∈ routes) (hother : eligible query other = true) :
    other.priority ≤ leader.priority := by
  obtain ⟨-, before, after, rfl, hbefore⟩ := List.find?_eq_some_iff_append.mp hleader
  rcases List.mem_append.mp hmem with hearlier | hlater
  · exact absurd hother (by simpa using hbefore other hearlier)
  · rcases List.mem_cons.mp hlater with rfl | hlater
    · exact le_rfl
    · exact (List.pairwise_cons.mp (List.pairwise_append.mp hsorted).2.1).1 other hlater

theorem chosen_priority
    (hsorted : routes.Pairwise fun first second => second.priority ≤ first.priority)
    (hleader : routes.find? (eligible query) = some leader)
    (hchosen : chosenRoute routes query = some chosen) : chosen.priority = leader.priority := by
  apply le_antisymm
  · exact priority_le_leader hsorted hleader (chosenRoute_mem hchosen)
      (eligible_of_chosenRoute hchosen)
  · exact priority_le_of_rank_le (rank_le_of_chosenRoute hchosen
      (List.mem_of_find?_eq_some hleader) (List.find?_some hleader))

/-- Only a route for the application and the host is preferred to the first one. -/
theorem chosen_cases
    (hsorted : routes.Pairwise fun first second => second.priority ≤ first.priority)
    (hleader : routes.find? (eligible query) = some leader)
    (hchosen : chosenRoute routes query = some chosen) :
    chosen = leader ∨ documentedLevel query chosen = some 3 := by
  have hpriority := chosen_priority hsorted hleader hchosen
  obtain ⟨before, after, rfl, heligible, hbefore, -⟩ :=
    (firstMaximum_eq_some_iff _ _ _ _).mp hchosen
  rw [List.find?_append, List.find?_cons_of_pos heligible] at hleader
  cases hearlier : before.find? (eligible query) with
  | none =>
      rw [hearlier, Option.none_or] at hleader
      exact Or.inl (Option.some_inj.mp hleader)
  | some first =>
      rw [hearlier, Option.some_or] at hleader
      obtain rfl : first = leader := Option.some_inj.mp hleader
      have hrank := hbefore first (List.mem_of_find?_eq_some hearlier) (List.find?_some hearlier)
      rcases (rank_lt_iff query first chosen).mp hrank with hlower | ⟨-, hspecificity⟩
      · omega
      · exact Or.inr (documentedLevel_of_specificity_lt hspecificity)

theorem exists_leader {route : Route} (hmem : route ∈ routes)
    (hroute : eligible query route = true) :
    ∃ leader, routes.find? (eligible query) = some leader := by
  rw [← Option.isSome_iff_exists, List.find?_isSome]
  exact ⟨route, hmem, hroute⟩

theorem exists_chosen {route : Route} (hmem : route ∈ routes)
    (hroute : eligible query route = true) : ∃ chosen, chosenRoute routes query = some chosen := by
  rw [← Option.isSome_iff_exists, Option.isSome_iff_ne_none, chosenRoute, ne_eq,
    firstMaximum_eq_none_iff]
  intro hnone
  exact absurd hroute (by simp [hnone route hmem])

theorem certId_injective {database : Database} (hnodup : (database.routes.map (·.certId)).Nodup)
    {first second : Route} (hfirst : first ∈ routesOf database)
    (hsecond : second ∈ routesOf database) (h : first.certId = second.certId) : first = second := by
  have hlisted : ((routesOf database).map (·.certId)).Nodup := by
    rw [routesOf, List.map_map]
    exact ((List.perm_insertionSort _ database.routes).map _).nodup_iff.mpr hnodup
  exact List.inj_on_of_nodup_map hlisted hfirst hsecond h

/-- The loop knows two levels only, so within a priority it is the order of creation that
decides between routes for the application, for the host and for everything. -/
theorem keepsDocumentedOrder_iff (database : Database) (master : Bytes)
    (exePath remoteHost remoteIp : Option String)
    (hnodup : (database.routes.map (·.certId)).Nodup) :
    KeepsDocumentedOrder database master exePath remoteHost remoteIp ↔
      LeaderIsMostSpecific (routesOf database)
        (queryOf database exePath remoteHost remoteIp) := by
  have hsorted := routesOf_pairwise database
  rw [KeepsDocumentedOrder, resolveRoute_unlocked, selectRoute_eq_chosenRoute]
  constructor
  · intro hkeeps leader hleader
    have heligible := List.find?_some hleader
    have hmem := List.mem_of_find?_eq_some hleader
    by_cases hthree : ∃ other ∈ routesOf database,
        eligible (queryOf database exePath remoteHost remoteIp) other = true ∧
          other.priority = leader.priority ∧
          documentedLevel (queryOf database exePath remoteHost remoteIp) other = some 3
    · exact Or.inl hthree
    · right
      intro other hother hothers hpriority hmore
      obtain ⟨chosen, hchosen⟩ := exists_chosen hmem heligible
      have hsame : chosen = leader := by
        rcases chosen_cases hsorted hleader hchosen with hsame | hlevel
        · exact hsame
        · exact absurd ⟨chosen, chosenRoute_mem hchosen, eligible_of_chosenRoute hchosen,
            chosen_priority hsorted hleader hchosen, hlevel⟩ hthree
      refine hkeeps other hother leader hmem hothers heligible hpriority hmore ?_
      rw [hchosen, hsame, Option.map_some]
  · intro hleads first hfirst second hsecond hfirsts hseconds hpriority hmore hresolved
    obtain ⟨leader, hleader⟩ := exists_leader hsecond hseconds
    obtain ⟨chosen, hchosen⟩ := exists_chosen hsecond hseconds
    obtain rfl : chosen = second := by
      rw [hchosen, Option.map_some, Outcome.ok.injEq, Option.some_inj] at hresolved
      exact certId_injective hnodup (chosenRoute_mem hchosen) hsecond hresolved
    have hsame := chosen_priority hsorted hleader hchosen
    have hlevel : documentedLevel (queryOf database exePath remoteHost remoteIp) chosen ≠ some 3 :=
      fun hlevel => not_moreSpecific_of_level hlevel hmore
    rcases hleads leader hleader with ⟨other, hother, hothers, hothersame, hthree⟩ | hnone
    · have hrank := rank_le_of_chosenRoute hchosen hother hothers
      exact hlevel (documentedLevel_of_specificity_le
        (specificity_le_of_rank_le hrank (hothersame.trans hsame.symm)) hthree)
    · rcases chosen_cases hsorted hleader hchosen with rfl | hthree
      · exact hnone first hfirst hfirsts hpriority hmore
      · exact hlevel hthree

/-- One application, and two routes of one priority for it: to one host, and to all. -/
def hostAndApp (hostCreated appCreated : Int) : Database where
  apps := [
    { id := "a1", label := "curl", exePath := "/usr/bin/curl", exeHash := "", registeredAt := 0 }]
  routes := [
    { id := "r1", certId := "c1", appId := none, matchType := "hostname"
      pattern := some "vpn.example", requireBoth := 0, priority := 100, createdAt := hostCreated },
    { id := "r2", certId := "c2", appId := some "a1", matchType := "hostname", pattern := none
      requireBoth := 0, priority := 100, createdAt := appCreated }]

/-- The route for the host is chosen where it is the older one. -/
theorem host_route_chosen_before_app_route :
    ¬ KeepsDocumentedOrder (hostAndApp 1 2) [] (some "/usr/bin/curl") (some "vpn.example")
      none := by
  intro hkeeps
  exact hkeeps (readRoute (hostAndApp 1 2).routes[1]) (by decide)
    (readRoute (hostAndApp 1 2).routes[0]) (by decide) (by decide) (by decide) rfl
    ⟨2, 1, by decide, by decide, by decide⟩ (by decide)

/-- Where the route for the application is the older one the documented order is kept. -/
theorem keepsDocumentedOrder_app_first :
    KeepsDocumentedOrder (hostAndApp 2 1) [] (some "/usr/bin/curl") (some "vpn.example") none := by
  refine (keepsDocumentedOrder_iff _ _ _ _ _ (by decide)).mpr ?_
  intro leader hleader
  obtain rfl := Option.some_inj.mp hleader
  have hlevels : ∀ other ∈ routesOf (hostAndApp 2 1),
      documentedLevel (queryOf (hostAndApp 2 1) (some "/usr/bin/curl") (some "vpn.example") none)
        other ∈ [some 1, some 2] := by decide
  refine Or.inr fun other hother _ _ => ?_
  rintro ⟨higher, lower, hhigher, hlower, hlt⟩
  obtain rfl : 2 = lower := Option.some_inj.mp hlower
  have hbound : higher = 1 ∨ higher = 2 := by simpa [hhigher] using hlevels other hother
  omega

end TrafficCone.DocumentedPrecedence
