import Mathlib.Data.Prod.Lex
import TrafficCone.FirstMaximumSelection
import TrafficCone.StoreListing

namespace TrafficCone.RouteResolution

open TrafficCone.Outcomes
open TrafficCone.StoreModels
open TrafficCone.StoreListing
open TrafficCone.FirstMaximumSelection

def startsWith (text lead : String) : Bool :=
  lead.toList.isPrefixOf text.toList

def dropLeading (word : List Char) : Nat → List Char → List Char
  | 0, letters => letters
  | rounds + 1, letters =>
      if word ≠ [] ∧ word.isPrefixOf letters then
        dropLeading word rounds (letters.drop word.length)
      else letters

/-- Drop a final word as often as it occurs. -/
def trimEndMatches (text word : String) : String :=
  String.ofList
    (dropLeading word.toList.reverse text.toList.length text.toList.reverse).reverse

theorem dropLeading_of_not_prefix {word letters : List Char} (h : ¬ word <+: letters)
    (rounds : Nat) : dropLeading word rounds letters = letters := by
  cases rounds with
  | zero => rfl
  | succ rounds =>
      rw [dropLeading, if_neg]
      rintro ⟨-, hlead⟩
      exact h (List.isPrefixOf_iff_prefix.mp hlead)

theorem trimEndMatches_of_not_suffix {text word : String} (h : ¬ word.toList <:+ text.toList) :
    trimEndMatches text word = text := by
  rw [trimEndMatches, dropLeading_of_not_prefix (mt List.reverse_prefix.mp h), List.reverse_reverse,
    String.ofList_toList]

/-- A final word goes, and only that one if there is no second. -/
theorem trimEndMatches_append {text word : String} (hword : word.toList ≠ [])
    (h : ¬ word.toList <:+ text.toList) : trimEndMatches (text ++ word) word = text := by
  obtain ⟨rounds, hrounds⟩ : ∃ rounds, (text ++ word).toList.length = rounds + 1 := by
    refine ⟨text.toList.length + (word.toList.length - 1), ?_⟩
    have hpositive := List.length_pos_iff.mpr hword
    rw [String.toList_append, List.length_append]
    omega
  have hlead : word.toList.reverse.isPrefixOf (text ++ word).toList.reverse = true := by
    rw [List.isPrefixOf_iff_prefix, String.toList_append, List.reverse_append]
    exact List.prefix_append _ _
  rw [trimEndMatches, hrounds, dropLeading, if_pos ⟨by simpa using hword, hlead⟩,
    String.toList_append, List.reverse_append, List.drop_left' rfl,
    dropLeading_of_not_prefix (mt List.reverse_prefix.mp h), List.reverse_reverse,
    String.ofList_toList]

structure Query where
  appId : Option String
  remoteHost : Option String
  remoteIp : Option String
  deriving DecidableEq, Repr

def patternMatches (matchType : MatchType) (pattern : String) (query : Query) : Bool :=
  match matchType with
  | .hostname => query.remoteHost.any fun host => host = pattern
  | .ip => query.remoteIp.any fun ip => ip = pattern
  -- Not a network: the address starts with what is left of the pattern.
  | .ipCidr => query.remoteIp.any fun ip => startsWith ip (trimEndMatches pattern ".0/24")

def appMatches (route : Route) (query : Query) : Bool :=
  match route.appId, query.appId with
  | some required, some registered => required = registered
  -- A restriction that the route does not state counts as met.
  | none, _ => true
  | some _, none => false

def hostMatches (route : Route) (query : Query) : Bool :=
  match route.pattern with
  | none => true
  | some pattern => patternMatches route.matchType pattern query

def specificity (route : Route) (query : Query) : Int :=
  match appMatches route query && route.appId.isSome,
      hostMatches route query && route.pattern.isSome with
  | true, true => 2
  | _, _ => 1

/-- Whether a match replaces the best one so far, which is kept as its priority,
its specificity and its certificate. -/
def isBetter (best : Option (Int × Int × String)) (priority specificity : Int) : Bool :=
  match best with
  | none => true
  | some (bestPriority, bestSpecificity, _) =>
      bestPriority < priority || (priority = bestPriority && bestSpecificity < specificity)

def considerRoute (query : Query) (best : Option (Int × Int × String)) (route : Route) :
    Option (Int × Int × String) :=
  if route.requireBoth && !(appMatches route query && hostMatches route query) then best
  else if !appMatches route query && !hostMatches route query then best
  else if isBetter best route.priority (specificity route query) then
    some (route.priority, specificity route query, route.certId)
  else best

def selectRoute (routes : List Route) (query : Query) : Option String :=
  (routes.foldl (considerRoute query) none).map fun best => best.2.2

def registeredAppId (apps : List App) (exePath : Option String) : Option String :=
  exePath.bind fun path => (apps.find? fun app => app.exePath = path).map (·.id)

def resolveRoute (store : Store) (exePath remoteHost remoteIp : Option String) :
    Outcome StoreError (Option String) := do
  let routes ← listRoutes store
  let apps ← listApps store
  pure (selectRoute routes
    { appId := registeredAppId apps exePath
      remoteHost := remoteHost
      remoteIp := remoteIp })

@[simp] theorem resolveRoute_locked (exePath remoteHost remoteIp : Option String) :
    resolveRoute .locked exePath remoteHost remoteIp = .err .locked := rfl

def queryOf (database : Database) (exePath remoteHost remoteIp : Option String) : Query :=
  { appId := registeredAppId (orderByLabel (·.label) database.apps) exePath
    remoteHost := remoteHost
    remoteIp := remoteIp }

def routesOf (database : Database) : List Route :=
  (orderRoutes database.routes).map readRoute

theorem resolveRoute_unlocked (database : Database) (master : Bytes)
    (exePath remoteHost remoteIp : Option String) :
    resolveRoute (.unlocked database master) exePath remoteHost remoteIp =
      .ok (selectRoute (routesOf database)
        (queryOf database exePath remoteHost remoteIp)) := rfl

theorem appMatches_eq_true_iff {route : Route} {query : Query} :
    appMatches route query = true ↔
      ∀ required, route.appId = some required → query.appId = some required := by
  rw [appMatches]
  cases route.appId with
  | none => simp
  | some required =>
      cases query.appId with
      | none => simp
      | some registered => simp [eq_comm]

/-- A route the loop does not pass over. -/
def eligible (query : Query) (route : Route) : Bool :=
  if route.requireBoth then appMatches route query && hostMatches route query
  else appMatches route query || hostMatches route query

def rank (query : Query) (route : Route) : Int ×ₗ Int :=
  toLex (route.priority, specificity route query)

def chosenRoute (routes : List Route) (query : Query) : Option Route :=
  firstMaximum (eligible query) (rank query) routes

def summary (query : Query) (route : Route) : Int × Int × String :=
  (route.priority, specificity route query, route.certId)

theorem rank_lt_iff (query : Query) (first second : Route) :
    rank query first < rank query second ↔
      first.priority < second.priority ∨
        (first.priority = second.priority ∧
          specificity first query < specificity second query) := by
  simp [rank, Prod.Lex.toLex_lt_toLex]

theorem considerRoute_of_not_eligible {query : Query} {route : Route}
    (h : eligible query route = false) (best : Option (Int × Int × String)) :
    considerRoute query best route = best := by
  unfold eligible at h
  unfold considerRoute
  cases hboth : route.requireBoth <;> cases happ : appMatches route query <;>
    cases hhost : hostMatches route query <;> simp_all

theorem isBetter_summary (query : Query) (leader route : Route) :
    isBetter (some (summary query leader)) route.priority (specificity route query) =
      decide (rank query leader < rank query route) := by
  rw [Bool.eq_iff_iff, decide_eq_true_iff, rank_lt_iff, @eq_comm Int leader.priority]
  simp only [isBetter, Bool.or_eq_true, Bool.and_eq_true, decide_eq_true_iff]
  rfl

theorem considerRoute_of_eligible {query : Query} {route : Route}
    (h : eligible query route = true) (best : Option (Int × Int × String)) :
    considerRoute query best route =
      if isBetter best route.priority (specificity route query) then
        some (summary query route)
      else best := by
  unfold eligible at h
  unfold considerRoute
  cases hboth : route.requireBoth <;> cases happ : appMatches route query <;>
    cases hhost : hostMatches route query <;> simp_all [summary]

theorem considerRoute_summary (query : Query) (best : Option Route) (route : Route) :
    considerRoute query (best.map (summary query)) route =
      (keepBest (eligible query) (rank query) best route).map (summary query) := by
  unfold keepBest
  cases h : eligible query route with
  | false => simp [considerRoute_of_not_eligible h]
  | true =>
      rw [considerRoute_of_eligible h]
      cases best with
      | none => rfl
      | some leader =>
          rw [Option.map_some, isBetter_summary]
          by_cases hrank : rank query leader < rank query route <;> simp [hrank]

theorem foldl_considerRoute (query : Query) (routes : List Route) (best : Option Route) :
    routes.foldl (considerRoute query) (best.map (summary query)) =
      (routes.foldl (keepBest (eligible query) (rank query)) best).map (summary query) := by
  induction routes generalizing best with
  | nil => rfl
  | cons route routes ih => simp only [List.foldl_cons, considerRoute_summary, ih]

/-- The loop finds the certificate of the first eligible route of the highest
rank. -/
theorem selectRoute_eq_chosenRoute (routes : List Route) (query : Query) :
    selectRoute routes query = (chosenRoute routes query).map (·.certId) := by
  have hfold := foldl_considerRoute query routes none
  rw [foldl_keepBest] at hfold
  unfold selectRoute
  rw [Option.map_none] at hfold
  rw [hfold, Option.map_map]
  rfl

theorem chosenRoute_mem {routes : List Route} {query : Query} {route : Route}
    (h : chosenRoute routes query = some route) : route ∈ routes := by
  obtain ⟨before, after, rfl, -⟩ := (firstMaximum_eq_some_iff _ _ _ _).mp h
  simp

theorem selectRoute_eq_none_iff (routes : List Route) (query : Query) :
    selectRoute routes query = none ↔ ∀ route ∈ routes, eligible query route = false := by
  rw [selectRoute_eq_chosenRoute, Option.map_eq_none_iff]
  exact firstMaximum_eq_none_iff _ _ _

theorem exists_selectRoute_iff (routes : List Route) (query : Query) :
    (∃ certId, selectRoute routes query = some certId) ↔
      ∃ route ∈ routes, eligible query route = true := by
  rw [← Option.isSome_iff_exists, Option.isSome_iff_ne_none, ne_eq, selectRoute_eq_none_iff]
  push Not
  simp only [ne_eq, Bool.not_eq_false]

end TrafficCone.RouteResolution
