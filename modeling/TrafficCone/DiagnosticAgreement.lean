import TrafficCone.FirstDestination
import TrafficCone.StoredImports

namespace TrafficCone.DiagnosticAgreement

open TrafficCone.Outcomes
open TrafficCone.StoreModels
open TrafficCone.StoreListing
open TrafficCone.LinkedCrates
open TrafficCone.ProcReaders
open TrafficCone.ProcessMonitoring
open TrafficCone.RouteResolution
open TrafficCone.PidRouting
open TrafficCone.FirstDestination
open TrafficCone.StoredImports

/-- `cone test`: the line it prints. -/
def test (store : Store) (host ip : Option String) : Outcome StoreError String := do
  let result ← resolveRoute store none host ip
  match result with
  | some certId => do
      let cert ← getCertById store certId
      pure ("✓ Would present: " ++ cert.label ++ " (" ++ cert.subject ++ ")")
  | none => pure "✗ No route matched — no certificate would be presented."

section Information

/-- Whatever the first query says, the second one says too. -/
structure Informed (query more : Query) : Prop where
  appId : ∀ id, query.appId = some id → more.appId = some id
  remoteHost : ∀ host, query.remoteHost = some host → more.remoteHost = some host
  remoteIp : ∀ ip, query.remoteIp = some ip → more.remoteIp = some ip

variable {query more : Query} {route : Route}

theorem patternMatches_of_informed (h : Informed query more) {matchType : MatchType}
    {pattern : String} (hmatches : patternMatches matchType pattern query = true) :
    patternMatches matchType pattern more = true := by
  cases matchType with
  | hostname =>
      obtain ⟨host, hhost, hsame⟩ := (Option.any_eq_true _ _).mp hmatches
      exact (Option.any_eq_true _ _).mpr ⟨host, h.remoteHost host hhost, hsame⟩
  | ip =>
      obtain ⟨ip, hip, hsame⟩ := (Option.any_eq_true _ _).mp hmatches
      exact (Option.any_eq_true _ _).mpr ⟨ip, h.remoteIp ip hip, hsame⟩
  | ipCidr =>
      obtain ⟨ip, hip, hstarts⟩ := (Option.any_eq_true _ _).mp hmatches
      exact (Option.any_eq_true _ _).mpr ⟨ip, h.remoteIp ip hip, hstarts⟩

theorem appMatches_of_informed (h : Informed query more)
    (hmatches : appMatches route query = true) : appMatches route more = true := by
  rw [appMatches_eq_true_iff] at hmatches ⊢
  intro required hrequired
  exact h.appId required (hmatches required hrequired)

theorem hostMatches_of_informed (h : Informed query more)
    (hmatches : hostMatches route query = true) : hostMatches route more = true := by
  rw [hostMatches] at hmatches ⊢
  cases hpattern : route.pattern with
  | none => rfl
  | some pattern =>
      rw [hpattern] at hmatches
      exact patternMatches_of_informed h hmatches

/-- A query that says more is for no fewer routes. -/
theorem eligible_of_informed (h : Informed query more) (heligible : eligible query route = true) :
    eligible more route = true := by
  rw [eligible] at heligible ⊢
  split
  · rename_i hboth
    rw [if_pos hboth, Bool.and_eq_true] at heligible
    rw [Bool.and_eq_true]
    exact ⟨appMatches_of_informed h heligible.1, hostMatches_of_informed h heligible.2⟩
  · rename_i hboth
    rw [if_neg hboth, Bool.or_eq_true] at heligible
    rw [Bool.or_eq_true]
    exact heligible.imp (appMatches_of_informed h) (hostMatches_of_informed h)

theorem selectRoute_eq_none_of_informed (h : Informed query more) {routes : List Route}
    (hnone : selectRoute routes more = none) : selectRoute routes query = none := by
  rw [selectRoute_eq_none_iff] at hnone ⊢
  intro route hroute
  rw [Bool.eq_false_iff]
  intro heligible
  exact Bool.eq_false_iff.mp (hnone route hroute) (eligible_of_informed h heligible)

end Information

section Agreement

variable {database : Database} {exePath ip : String} {connections : List Connection}

/-- An executable that is not registered is asked for as no executable is. -/
theorem queryOf_of_unregistered (h : ∀ app ∈ database.apps, app.exePath ≠ exePath)
    (remoteHost remoteIp : Option String) :
    queryOf database (some exePath) remoteHost remoteIp =
      queryOf database none remoteHost remoteIp := by
  have hnone : registeredAppId (orderByLabel (·.label) database.apps) (some exePath) = none := by
    rw [registeredAppId, Option.bind_some, Option.map_eq_none_iff, List.find?_eq_none]
    intro app happ
    rw [orderByLabel, List.mem_insertionSort] at happ
    simpa using h app happ
  rw [queryOf, hnone]
  rfl

theorem informed_of_ip (database : Database) (exePath : Option String) (ip : String) :
    Informed (queryOf database exePath none none) (queryOf database exePath none (some ip)) where
  appId _ hid := hid
  remoteHost _ hhost := hhost
  remoteIp _ hip := by cases hip

/-- The loop over connections to one address is one query with it. What this query does not
find, the query without an address does not find either. -/
theorem firstRoute_of_one_address (hunregistered : ∀ app ∈ database.apps, app.exePath ≠ exePath)
    (hsome : connections ≠ []) (hip : ∀ connection ∈ connections, connection.remoteIp = ip) :
    firstRoute database exePath connections =
      (selectRoute (routesOf database) (queryOf database none none (some ip))).map
        (·, some ip) := by
  rw [firstRoute, queriedIps]
  cases hselected : selectRoute (routesOf database) (queryOf database none none (some ip)) with
  | some certId =>
      cases connections with
      | nil => exact absurd rfl hsome
      | cons connection rest =>
          have hfirst := hip connection List.mem_cons_self
          rw [List.map_cons, List.cons_append, List.findSome?_cons,
            queryOf_of_unregistered hunregistered, hfirst, hselected]
          rfl
  | none =>
      rw [Option.map_none, List.findSome?_eq_none_iff]
      intro queried hqueried
      rw [Option.map_eq_none_iff, queryOf_of_unregistered hunregistered]
      rcases List.mem_append.mp hqueried with hmapped | hlast
      · obtain ⟨connection, hconnection, rfl⟩ := List.mem_map.mp hmapped
        rw [hip connection hconnection]
        exact hselected
      · rw [List.mem_singleton.mp hlast]
        exact selectRoute_eq_none_of_informed (informed_of_ip database none ip) hselected

/-- A process without a registration, connected to one address only, is given the certificate
that the command line names for the address, and is refused where it names none. -/
theorem diagnostic_agrees {crates : Crates} {system : System} {pid : Nat} {cache : Cache}
    {knownHashes : KnownHashes} {process : ProcessEntry} (master : Bytes)
    (hresolved : (resolve crates system pid cache).1 = .ok process)
    (hunregistered : ∀ app ∈ database.apps, app.exePath ≠ process.exePath)
    (hunknown : knownHashes process.exePath = none)
    (hconnections : getConnections system pid = .ok connections) (hsome : connections ≠ [])
    (hip : ∀ connection ∈ connections, connection.remoteIp = ip) :
    (∀ certId,
      (∃ route, (resolveForPid crates system (.unlocked database master) pid knownHashes
          cache).1 = .ok route ∧ route.certId = certId) ↔
        resolveRoute (.unlocked database master) none none (some ip) = .ok (some certId)) ∧
    ((∃ error, (resolveForPid crates system (.unlocked database master) pid knownHashes
        cache).1 = .err error) ↔
      resolveRoute (.unlocked database master) none none (some ip) = .ok none) ∧
    (tryConnections (.unlocked database master) process connections = .ok none →
      resolveRoute (.unlocked database master) (some process.exePath) none none = .ok none) := by
  have haccepted : binaryReplaced knownHashes process = false := by
    rw [binaryReplaced, hunknown]
    rfl
  have hfirst := firstRoute_of_one_address hunregistered hsome hip
  rw [resolveForPid_fst, hresolved, Outcome.ok_bind, routeProcess_unlocked haccepted,
    hconnections, Outcome.ok_bind, resolveRoute_unlocked, routedAnswer, hfirst]
  refine ⟨?_, ?_, ?_⟩
  · intro certId
    cases selectRoute (routesOf database) (queryOf database none none (some ip)) with
    | none => simp
    | some found => simp
  · cases selectRoute (routesOf database) (queryOf database none none (some ip)) with
    | none => simp
    | some found => simp
  · intro hnone
    rw [tryConnections_unlocked, Outcome.ok.injEq, Option.map_eq_none_iff,
      List.findSome?_eq_none_iff] at hnone
    obtain ⟨connection, rest, rfl⟩ := List.exists_cons_of_ne_nil hsome
    have hfailed := hnone connection List.mem_cons_self
    rw [Option.map_eq_none_iff] at hfailed
    rw [resolveRoute_unlocked,
      selectRoute_eq_none_of_informed (informed_of_ip database _ connection.remoteIp) hfailed]

/-- The certificate that the daemon uses for such a process is the one that is printed. -/
theorem test_of_resolved {cert : Cert} {master : Bytes}
    (hcert : getCertById (.unlocked database master) cert.id = .ok cert)
    (hroute : resolveRoute (.unlocked database master) none none (some ip) = .ok (some cert.id)) :
    test (.unlocked database master) none (some ip) =
      .ok ("✓ Would present: " ++ cert.label ++ " (" ++ cert.subject ++ ")") := by
  rw [test, hroute, Outcome.ok_bind]
  dsimp only
  rw [hcert]
  rfl

end Agreement

section Curl

def addressRouteDatabase : Database :=
  { certs := [
      { id := "c1", label := "Laptop", certDer := [48], fingerprint := "f1", subject := "CN=laptop",
        issuer := "CN=ca", notBefore := 0, notAfter := 1, createdAt := 0 }]
    routes := [
      { id := "r1", certId := "c1", appId := none, matchType := "ip",
        pattern := some "198.51.100.7", requireBoth := 0, priority := 0, createdAt := 0 }] }

/-- Process 7 runs `/usr/bin/curl`, with two connections to one address. -/
def oneDestinationSystem : System :=
  { quietSystem [(7, "/usr/bin/curl")] [("/usr/bin/curl", [])] with
    netTcp := fun _ => some
      ("  sl  local_address rem_address   st\n" ++
        "   0: 0100007F:C350 076433C6:01BB 01\n" ++
        "   1: 0100007F:C351 076433C6:01BB 01\n") }

theorem diagnostic_agrees_for_curl :
    ∃ route, (resolveForPid plainCrates oneDestinationSystem
        (.unlocked addressRouteDatabase [7]) 7 (fun _ => none) fun _ => none).1 = .ok route ∧
      route.certId = "c1" := by
  have hconnections : getConnections oneDestinationSystem 7 = .ok
      (List.replicate 2
        { remoteIp := "198.51.100.7", remotePort := 443, state := .established }) := by
    decide +kernel
  have hresolved : (resolve plainCrates oneDestinationSystem 7 fun _ => none).1 = .ok
      { pid := 7
        exePath := "/usr/bin/curl"
        exeHash := String.ofList (List.replicate 64 '0')
        startTime := 500 } := by
    decide +kernel
  obtain ⟨hagrees, -, -⟩ := @diagnostic_agrees addressRouteDatabase "198.51.100.7" _ plainCrates
    oneDestinationSystem 7 (fun _ => none) (fun _ => none) _ [7] hresolved
    (by simp [addressRouteDatabase]) rfl hconnections (by simp) (by simp)
  exact (hagrees "c1").mpr (by decide +kernel)

end Curl

end TrafficCone.DiagnosticAgreement
