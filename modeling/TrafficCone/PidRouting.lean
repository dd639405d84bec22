import TrafficCone.IntegrityRecords
import TrafficCone.ProcessMonitoring
import TrafficCone.RouteResolution

namespace TrafficCone.PidRouting

open TrafficCone.Outcomes
open TrafficCone.StoreModels
open TrafficCone.StoreListing
open TrafficCone.LinkedCrates
open TrafficCone.ProcReaders
open TrafficCone.ProcessMonitoring
open TrafficCone.RouteResolution

structure ResolvedRoute where
  certId : String
  process : ProcessEntry
  remoteHost : Option String
  remoteIp : Option String
  deriving DecidableEq, Repr

abbrev KnownHashes : Type := String → Option String

/-- The first connection with a matching route decides. -/
def tryConnections (store : Store) (process : ProcessEntry) :
    List Connection → Outcome String (Option ResolvedRoute)
  | [] => .ok none
  | connection :: rest => do
      -- The address is not looked up, so no query has a host.
      let certId ← (resolveRoute store (some process.exePath) none
        (some connection.remoteIp)).mapErr StoreError.toText
      match certId with
      | some certId =>
          pure (some
            { certId := certId
              process := process
              remoteHost := none
              remoteIp := some connection.remoteIp })
      | none => tryConnections store process rest

def noRouteMatched (pid : Nat) (exePath : String) : String :=
  "No route matched for PID " ++ toString pid ++ " (" ++ exePath ++ "). " ++
    "Register this application and add a route with: " ++
    "cone app add --label \"AppName\" --exe \"" ++ exePath ++ "\" && " ++
    "cone route add --cert \"YourCert\" --app \"AppName\""

def hashMismatch (exePath : String) (pid : Nat) : String :=
  "Binary hash mismatch for " ++ exePath ++ " (PID " ++ toString pid ++
    "): binary may have been replaced"

def binaryReplaced (knownHashes : KnownHashes) (process : ProcessEntry) : Bool :=
  (knownHashes process.exePath).any fun expected => process.exeHash ≠ expected

/-- Steps 2 to 5 of `resolve_for_pid`, once the process is resolved. -/
def routeProcess (system : System) (store : Store) (knownHashes : KnownHashes) (pid : Nat)
    (process : ProcessEntry) : Outcome String ResolvedRoute :=
  -- The hash with which an application has been registered is not read here.
  if binaryReplaced knownHashes process then
    .err (hashMismatch process.exePath pid)
  else do
    let connections ← getConnections system pid
    match ← tryConnections store process connections with
    | some route => pure route
    | none =>
        let certId ← (resolveRoute store (some process.exePath) none none).mapErr
          StoreError.toText
        match certId with
        | some certId =>
            pure { certId := certId, process := process, remoteHost := none, remoteIp := none }
        | none => .err (noRouteMatched pid process.exePath)

def resolveForPid (crates : Crates) (system : System) (store : Store) (pid : Nat)
    (knownHashes : KnownHashes) : Effect Cache String ResolvedRoute := do
  let process ← resolve crates system pid
  Effect.lift (routeProcess system store knownHashes pid process)

def verifyTrafficConeBinary (crates : Crates) (system : System) (ourUid pid uid : Nat)
    (expectedHashes : KnownHashes) : Effect Cache String ProcessEntry :=
  if uid ≠ ourUid then
    Effect.lift (.err ("IPC connection rejected: UID " ++ toString uid ++
      " does not match daemon UID " ++ toString ourUid))
  else do
    let process ← resolve crates system pid
    -- The path is that of the process, whichever library has opened the connection.
    match expectedHashes process.exePath with
    | some expected =>
        if expected = process.exeHash then pure process
        else Effect.lift (.err ("IPC connection rejected: " ++ process.exePath ++ " (PID " ++
          toString pid ++ ") has an unexpected binary hash. The binary may have been modified."))
    | none =>
        Effect.lift (.err ("IPC connection rejected: " ++ process.exePath ++ " (PID " ++
          toString pid ++ ") is not a registered Traffic Cone binary."))

theorem verifyTrafficConeBinary_eq_ok_iff {crates : Crates} {system : System}
    {ourUid pid uid : Nat} {expectedHashes : KnownHashes} {cache cache' : Cache}
    {process : ProcessEntry} :
    verifyTrafficConeBinary crates system ourUid pid uid expectedHashes cache =
        (.ok process, cache') ↔
      uid = ourUid ∧ resolve crates system pid cache = (.ok process, cache') ∧
        expectedHashes process.exePath = some process.exeHash := by
  rw [verifyTrafficConeBinary]
  by_cases huid : uid = ourUid
  · rw [if_neg (not_not_intro huid), Effect.bind_eq_ok_iff]
    constructor
    · rintro ⟨found, middle, hresolved, hchecked⟩
      cases hexpected : expectedHashes found.exePath with
      | none => simp [hexpected, Effect.lift] at hchecked
      | some expected =>
          by_cases hhash : expected = found.exeHash
          · simp only [hexpected, if_pos hhash, Effect.pure_apply, Prod.mk.injEq,
              Outcome.ok.injEq] at hchecked
            obtain ⟨rfl, rfl⟩ := hchecked
            exact ⟨huid, hresolved, by rw [hexpected, hhash]⟩
          · simp [hexpected, hhash, Effect.lift] at hchecked
    · rintro ⟨-, hresolved, hexpected⟩
      refine ⟨process, cache', hresolved, ?_⟩
      simp [hexpected, Effect.pure_apply]
  · rw [if_pos huid]
    simp [huid, Effect.lift]

theorem uid_of_verified {crates : Crates} {system : System} {ourUid pid uid : Nat}
    {expectedHashes : KnownHashes} {cache : Cache} {process : ProcessEntry}
    (h : (verifyTrafficConeBinary crates system ourUid pid uid expectedHashes cache).1 =
      .ok process) : uid = ourUid :=
  (verifyTrafficConeBinary_eq_ok_iff.mp (Effect.eq_of_fst h)).1

/-- A process of the daemon's own user is accepted exactly with the expected hash of
its executable. -/
theorem verified_iff_of_resolved {crates : Crates} {system : System} {pid : Nat}
    {cache cache' : Cache} {process : ProcessEntry}
    (h : resolve crates system pid cache = (.ok process, cache')) (ourUid : Nat)
    (expectedHashes : KnownHashes) :
    verifyTrafficConeBinary crates system ourUid pid ourUid expectedHashes cache =
        (.ok process, cache') ↔
      expectedHashes process.exePath = some process.exeHash := by
  rw [verifyTrafficConeBinary_eq_ok_iff]
  simp [h]

/-- The map of the recorded hashes; of two records with one path the later counts. -/
def loadKnownHashes (store : Store) : Outcome String KnownHashes := do
  let records ← (IntegrityRecords.list store).mapErr fun error =>
    "failed to load integrity records: " ++ error.toText
  pure (records.foldl (fun known record => Function.update known record.path (some record.sha256))
    fun _ => none)

def lastRecorded (records : List IntegrityRecord) (path : String) : Option String :=
  (records.reverse.find? fun record => record.path = path).map (·.sha256)

theorem foldl_update_eq_lastRecorded (records : List IntegrityRecord) :
    records.foldl (fun (known : KnownHashes) record =>
        Function.update known record.path (some record.sha256)) (fun _ => none) =
      lastRecorded records := by
  induction records using List.reverseRecOn with
  | nil => rfl
  | append_singleton records record ih =>
      rw [List.foldl_append, ih, List.foldl_cons, List.foldl_nil]
      funext path
      unfold lastRecorded
      rw [List.reverse_concat, List.find?_cons]
      by_cases hpath : record.path = path
      · simp [hpath]
      · simp [hpath, Function.update_of_ne (Ne.symm hpath)]

theorem loadKnownHashes_unlocked (database : Database) (master : Bytes) :
    loadKnownHashes (.unlocked database master) =
      .ok (lastRecorded (orderByLabel (·.component) database.integrity)) := by
  rw [← foldl_update_eq_lastRecorded]
  rfl

/-- The address each query of a resolution carries: that of every connection in
turn, then none. -/
def queriedIps (connections : List Connection) : List (Option String) :=
  connections.map (fun connection => some connection.remoteIp) ++ [none]

def firstRoute (database : Database) (exePath : String) (connections : List Connection) :
    Option (String × Option String) :=
  (queriedIps connections).findSome? fun ip =>
    (selectRoute (routesOf database) (queryOf database (some exePath) none ip)).map (·, ip)

def Routable (database : Database) (exePath : String) (connections : List Connection) : Prop :=
  ∃ ip ∈ queriedIps connections, ∃ route ∈ routesOf database,
    eligible (queryOf database (some exePath) none ip) route = true

theorem exists_firstRoute_iff (database : Database) (exePath : String)
    (connections : List Connection) :
    (∃ found, firstRoute database exePath connections = some found) ↔
      Routable database exePath connections := by
  unfold firstRoute Routable
  rw [← Option.isSome_iff_exists, List.findSome?_isSome_iff]
  simp only [Option.isSome_map, Option.isSome_iff_exists, exists_selectRoute_iff]

def routedAnswer (database : Database) (pid : Nat) (process : ProcessEntry)
    (connections : List Connection) : Outcome String ResolvedRoute :=
  match firstRoute database process.exePath connections with
  | some (certId, ip) =>
      .ok { certId := certId, process := process, remoteHost := none, remoteIp := ip }
  | none => .err (noRouteMatched pid process.exePath)

theorem tryConnections_unlocked (database : Database) (master : Bytes) (process : ProcessEntry)
    (connections : List Connection) :
    tryConnections (.unlocked database master) process connections =
      .ok ((connections.findSome? fun connection =>
          (selectRoute (routesOf database)
            (queryOf database (some process.exePath) none (some connection.remoteIp))).map
              (·, connection.remoteIp)).map fun found =>
        { certId := found.1
          process := process
          remoteHost := none
          remoteIp := some found.2 }) := by
  induction connections with
  | nil => rfl
  | cons connection rest ih =>
      rw [tryConnections, resolveRoute_unlocked, Outcome.mapErr_ok, Outcome.ok_bind,
        List.findSome?_cons]
      cases selectRoute (routesOf database)
          (queryOf database (some process.exePath) none (some connection.remoteIp)) with
      | none => exact ih
      | some certId => rfl

theorem firstRoute_eq (database : Database) (exePath : String)
    (connections : List Connection) :
    firstRoute database exePath connections =
      ((connections.findSome? fun connection =>
          (selectRoute (routesOf database)
            (queryOf database (some exePath) none (some connection.remoteIp))).map
              (·, connection.remoteIp)).map fun found => (found.1, some found.2)).or
        ((selectRoute (routesOf database) (queryOf database (some exePath) none none)).map
          (·, none)) := by
  unfold firstRoute queriedIps
  induction connections with
  | nil => simp
  | cons connection rest ih =>
      rw [List.map_cons, List.cons_append, List.findSome?_cons, ih, List.findSome?_cons]
      cases selectRoute (routesOf database)
          (queryOf database (some exePath) none (some connection.remoteIp)) <;> rfl

theorem routeProcess_unlocked {knownHashes : KnownHashes} {process : ProcessEntry}
    (haccepted : binaryReplaced knownHashes process = false) (system : System)
    (database : Database) (master : Bytes) (pid : Nat) :
    routeProcess system (.unlocked database master) knownHashes pid process =
      getConnections system pid >>= routedAnswer database pid process := by
  unfold routeProcess
  rw [if_neg (by simp [haccepted])]
  congr 1
  funext connections
  rw [tryConnections_unlocked, Outcome.ok_bind, routedAnswer, firstRoute_eq]
  cases connections.findSome? fun connection =>
      (selectRoute (routesOf database)
        (queryOf database (some process.exePath) none (some connection.remoteIp))).map
          (·, connection.remoteIp) with
  | some found => rfl
  | none =>
      rw [resolveRoute_unlocked, Outcome.mapErr_ok]
      cases selectRoute (routesOf database) (queryOf database (some process.exePath) none none) <;>
        rfl

theorem routeProcess_of_replaced {knownHashes : KnownHashes} {process : ProcessEntry}
    (hreplaced : binaryReplaced knownHashes process = true) (system : System) (store : Store)
    (pid : Nat) :
    routeProcess system store knownHashes pid process =
      .err (hashMismatch process.exePath pid) := by
  unfold routeProcess
  rw [if_pos hreplaced]

theorem tryConnections_locked (process : ProcessEntry) (connections : List Connection) :
    tryConnections .locked process connections =
      if connections = [] then .ok none else .err StoreError.locked.toText := by
  cases connections with
  | nil => rfl
  | cons connection rest => simp [tryConnections]

theorem routeProcess_locked {knownHashes : KnownHashes} {process : ProcessEntry}
    (haccepted : binaryReplaced knownHashes process = false) (system : System) (pid : Nat) :
    routeProcess system .locked knownHashes pid process =
      getConnections system pid >>= fun _ => .err StoreError.locked.toText := by
  unfold routeProcess
  rw [if_neg (by simp [haccepted])]
  congr 1
  funext connections
  rw [tryConnections_locked]
  cases connections <;> rfl

theorem routedAnswer_eq_ok_iff {database : Database} {pid : Nat} {process : ProcessEntry}
    {connections : List Connection} {route : ResolvedRoute} :
    routedAnswer database pid process connections = .ok route ↔
      ∃ certId ip, firstRoute database process.exePath connections = some (certId, ip) ∧
        route = { certId := certId, process := process, remoteHost := none, remoteIp := ip } := by
  unfold routedAnswer
  rcases firstRoute database process.exePath connections with _ | ⟨certId, ip⟩
  · simp
  · simp [eq_comm]

/-- A route is found exactly for a process that is not refused, in an open store,
whose connections can be read and have a first route. -/
theorem routeProcess_eq_ok_iff {system : System} {store : Store} {knownHashes : KnownHashes}
    {pid : Nat} {process : ProcessEntry} {route : ResolvedRoute} :
    routeProcess system store knownHashes pid process = .ok route ↔
      binaryReplaced knownHashes process = false ∧
        ∃ database master connections certId ip,
          store = .unlocked database master ∧ getConnections system pid = .ok connections ∧
          firstRoute database process.exePath connections = some (certId, ip) ∧
          route =
            { certId := certId, process := process, remoteHost := none, remoteIp := ip } := by
  cases hreplaced : binaryReplaced knownHashes process with
  | true => simp [routeProcess_of_replaced hreplaced]
  | false =>
      cases store with
      | locked =>
          rw [routeProcess_locked hreplaced]
          cases getConnections system pid <;> simp
      | unlocked database master =>
          rw [routeProcess_unlocked hreplaced, Outcome.bind_eq_ok_iff]
          simp only [routedAnswer_eq_ok_iff, Store.unlocked.injEq, true_and]
          constructor
          · rintro ⟨connections, hconnections, certId, ip, hfirst, rfl⟩
            exact ⟨database, master, connections, certId, ip, ⟨rfl, rfl⟩, hconnections, hfirst,
              rfl⟩
          · rintro ⟨database, master, connections, certId, ip, ⟨rfl, rfl⟩, hconnections, hfirst,
              rfl⟩
            exact ⟨connections, hconnections, certId, ip, hfirst, rfl⟩

theorem routeProcess_eq_err_iff {system : System} {store : Store} {knownHashes : KnownHashes}
    {pid : Nat} {process : ProcessEntry} {text : String}
    (haccepted : binaryReplaced knownHashes process = false) :
    routeProcess system store knownHashes pid process = .err text ↔
      ∃ connections, getConnections system pid = .ok connections ∧
        ((store = .locked ∧ text = StoreError.locked.toText) ∨
          ∃ database master, store = .unlocked database master ∧
            firstRoute database process.exePath connections = none ∧
              text = noRouteMatched pid process.exePath) := by
  cases store with
  | locked =>
      rw [routeProcess_locked haccepted, Outcome.bind_eq_err_iff]
      simp only [getConnections_ne_err, false_or, reduceCtorEq, false_and, exists_false, or_false,
        true_and, Outcome.err.injEq, @eq_comm _ text]
  | unlocked database master =>
      rw [routeProcess_unlocked haccepted, Outcome.bind_eq_err_iff]
      simp only [getConnections_ne_err, false_or, reduceCtorEq, false_and, Store.unlocked.injEq]
      constructor
      · rintro ⟨connections, hconnections, herror⟩
        unfold routedAnswer at herror
        split at herror
        · cases herror
        · rename_i hnone
          cases herror
          exact ⟨connections, hconnections, database, master, ⟨rfl, rfl⟩, hnone, rfl⟩
      · rintro ⟨connections, hconnections, database, master, ⟨rfl, rfl⟩, hnone, rfl⟩
        refine ⟨connections, hconnections, ?_⟩
        rw [routedAnswer, hnone]

theorem routedAnswer_ne_panicked (database : Database) (pid : Nat) (process : ProcessEntry)
    (connections : List Connection) :
    routedAnswer database pid process connections ≠ .panicked := by
  unfold routedAnswer
  split <;> simp

/-- Once the process is known, only the tables of its connections can make the thread panic. -/
theorem routeProcess_eq_panicked_iff {system : System} {store : Store}
    {knownHashes : KnownHashes} {pid : Nat} {process : ProcessEntry} :
    routeProcess system store knownHashes pid process = .panicked ↔
      binaryReplaced knownHashes process = false ∧ getConnections system pid = .panicked := by
  cases hreplaced : binaryReplaced knownHashes process with
  | true => simp [routeProcess_of_replaced hreplaced]
  | false =>
      cases store with
      | locked =>
          rw [routeProcess_locked hreplaced, Outcome.bind_eq_panicked_iff]
          simp
      | unlocked database master =>
          rw [routeProcess_unlocked hreplaced, Outcome.bind_eq_panicked_iff]
          simp [routedAnswer_ne_panicked]

theorem resolveForPid_fst (crates : Crates) (system : System) (store : Store) (pid : Nat)
    (knownHashes : KnownHashes) (cache : Cache) :
    (resolveForPid crates system store pid knownHashes cache).1 =
      (resolve crates system pid cache).1 >>= routeProcess system store knownHashes pid :=
  Effect.bind_lift_fst _ _ _

theorem resolveForPid_eq_ok_iff {crates : Crates} {system : System} {store : Store} {pid : Nat}
    {knownHashes : KnownHashes} {cache cache' : Cache} {route : ResolvedRoute} :
    resolveForPid crates system store pid knownHashes cache = (.ok route, cache') ↔
      ∃ process, resolve crates system pid cache = (.ok process, cache') ∧
        routeProcess system store knownHashes pid process = .ok route := by
  unfold resolveForPid
  rw [Effect.bind_eq_ok_iff]
  simp only [Effect.lift, Prod.mk.injEq]
  constructor
  · rintro ⟨process, cache'', hresolved, hrouted, rfl⟩
    exact ⟨process, hresolved, hrouted⟩
  · rintro ⟨process, hresolved, hrouted⟩
    exact ⟨process, cache', hresolved, hrouted, rfl⟩

end TrafficCone.PidRouting
