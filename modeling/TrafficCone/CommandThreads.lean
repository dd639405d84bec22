import TrafficCone.CommittedStatements
import TrafficCone.IpcServing
import TrafficCone.Threads

namespace TrafficCone.CommandThreads

open TrafficCone.Outcomes
open TrafficCone.Threads
open TrafficCone.StoreModels
open TrafficCone.StoreListing
open TrafficCone.LinkedCrates
open TrafficCone.ProcReaders
open TrafficCone.ProcessMonitoring
open TrafficCone.RouteResolution
open TrafficCone.PidRouting
open TrafficCone.IpcServing
open TrafficCone.DatabaseTables
open TrafficCone.BackupArchives
open TrafficCone.IntegrityChecks
open TrafficCone.CertificateImport
open TrafficCone.StoreCommands
open TrafficCone.CommittedStatements

/-- A statement is committed by itself, between whatever other processes commit. -/
def issueCall (statement : Statement) : Effect Database StoreError Unit := fun database =>
  let result := execute statement { database := database, drawn := 0 }
  (result.1, result.2.database)

def issue (statement : Statement) : Thread Database StoreError Unit :=
  .atomic (issueCall statement)

/-- A query reads one state of the database. -/
def query {ε α : Type} (view : Database → Outcome ε α) : Thread Database ε α :=
  .atomic (.reads view)

section Commands

variable (crates : Crates) (master : Bytes) (host : Host)

/-- `storeCertAndKey`, statement by statement. -/
def storeCertAndKeySteps (parsers : DerParsers) (drawn : KeyRandomness) (certDer keyDer : Bytes)
    (label : String) : Thread Database StoreError ImportResult := do
  let metadata ← .done (parseCertMetadata crates parsers certDer)
  let algorithm ← .done (detectKeyAlgorithm parsers keyDer)
  let encrypted ← .done (encryptKey crates drawn.salt drawn.nonce keyDer master)
  issue (.insertCert (importedCert host (host.newId 0) certDer label metadata))
  issue (.insertKey (importedKey (host.newId 1) (host.newId 0) algorithm encrypted))
  issue (.insertAudit (importedEntry host (host.newId 2) (host.newId 0) label))
  pure
    { certId := host.newId 0
      summary := summaryOf label algorithm metadata
      caChain := [] }

def deleteCertSteps (label : String) : Thread Database StoreError Unit := do
  let cert ← query fun database => getCertByLabel (.unlocked database master) label
  issue (.deleteCert cert.id)
  issue (.insertAudit (deletedEntry host (host.newId 0) cert.id label))

def appAddSteps (files : Files) (label exe : String) :
    Thread Database CommandError (List String) := do
  let hash ← .done ((hashFile crates files exe).mapErr CommandError.ofStore)
  (issue (.insertApp (registeredApp host (host.newId 0) label exe hash))).mapErr
    (CommandError.context "Failed to register application")
  pure ["Registered '" ++ label ++ "' at " ++ exe,
    "Hash: " ++ String.ofList (hash.toList.take 16)]

def insertRouteSteps (certId : String) (appId : Option String) (request : RouteRequest) :
    Thread Database StoreError String := do
  issue (.insertRoute (requestedRoute host (host.newId 0) certId appId request))
  pure (host.newId 0)

def routeAddSteps (request : RouteRequest) : Thread Database CommandError (List String) := do
  let cert ← query fun database =>
    (getCertByLabel (.unlocked database master) request.cert).mapErr fun _ =>
      { message := "Certificate '" ++ request.cert ++ "' not found", cause := none }
  let appId ← query fun database => findAppId (.unlocked database master) request.app
  let id ← (insertRouteSteps host cert.id appId request).mapErr
    (CommandError.context "Failed to add route")
  pure ["Route added (id: " ++ String.ofList (id.toList.take 8) ++ ")"]

def routeRemoveSteps (id : String) : Thread Database CommandError (List String) := do
  (issue (.deleteRoutes id)).mapErr CommandError.ofStore
  pure ["Route removed."]

end Commands

section Signing

variable (crates : Crates) (master : Bytes)

/-- The routes and the applications are read one after the other. -/
def resolveRouteSteps (exePath remoteHost remoteIp : Option String) :
    Thread Database StoreError (Option String) := do
  let routes ← query fun database => listRoutes (.unlocked database master)
  let apps ← query fun database => listApps (.unlocked database master)
  pure (selectRoute routes
    { appId := registeredAppId apps exePath
      remoteHost := remoteHost
      remoteIp := remoteIp })

def tryConnectionsSteps (process : ProcessEntry) :
    List Connection → Thread Database String (Option ResolvedRoute)
  | [] => .done (.ok none)
  | connection :: rest => do
      let certId ← (resolveRouteSteps master (some process.exePath) none
        (some connection.remoteIp)).mapErr StoreError.toText
      match certId with
      | some certId =>
          pure (some
            { certId := certId
              process := process
              remoteHost := none
              remoteIp := some connection.remoteIp })
      | none => tryConnectionsSteps process rest

def routeProcessSteps (system : System) (knownHashes : KnownHashes) (pid : Nat)
    (process : ProcessEntry) : Thread Database String ResolvedRoute :=
  if binaryReplaced knownHashes process then
    .done (.err (hashMismatch process.exePath pid))
  else do
    let connections ← .done (getConnections system pid)
    match ← tryConnectionsSteps master process connections with
    | some route => pure route
    | none =>
        let certId ← (resolveRouteSteps master (some process.exePath) none none).mapErr
          StoreError.toText
        match certId with
        | some certId =>
            pure { certId := certId, process := process, remoteHost := none, remoteIp := none }
        | none => .done (.err (noRouteMatched pid process.exePath))

def failedToRetrieve (error : StoreError) : String := "failed to retrieve key: " ++ error.toText

/-- The query of `get_plaintext_key`. -/
def selectKey (certId : String) (database : Database) : Outcome String KeyRow :=
  (Outcome.ofOption (.notFound ("no private key found for cert '" ++ certId ++ "'"))
    (database.keys.find? fun row => row.certId = certId)).mapErr failedToRetrieve

def openRow (row : KeyRow) : Outcome StoreError (Bytes × KeyAlgorithm) := do
  let plaintext ← decryptKey crates row.keyEnc row.keySalt row.keyNonce master
  let algorithm ← parseAlgorithm row.algorithm
  pure (plaintext, algorithm)

def signWithRow (data : Bytes) (row : KeyRow) : Outcome String Bytes := do
  let (keyBytes, algorithm) ← (openRow crates master row).mapErr failedToRetrieve
  match algorithm with
  | .ecP256 | .ecP384 => signEcdsa crates keyBytes data
  | .rsa2048 | .rsa4096 => signRsa crates keyBytes data

/-- The row of the key is the only thing that `sign_data` reads; then the key is decrypted,
and the answer comes. -/
def signDataSteps (certId : String) (data : Bytes) : Thread Database String (String × Bytes) := do
  let row ← query (selectKey certId)
  query fun _ => do
    let signature ← signWithRow crates master data row
    pure (certId, signature)

/-- A request to sign, for a process that the monitor has resolved or has not. -/
def answerSignSteps (system : System) (resolved : Outcome String ProcessEntry)
    (knownHashes : KnownHashes) (pid : Nat) (data : Bytes) :
    Thread Database String (String × Bytes) := do
  let process ← .done resolved
  let route ← routeProcessSteps master system knownHashes pid process
  signDataSteps crates master route.certId data

end Signing

section Jobs

/-- What a process is at: one of the commands, or a request to sign. -/
inductive Job where
  | importCert (host : Host) (drawn : KeyRandomness) (certDer keyDer : Bytes) (label : String)
  | deleteCert (host : Host) (label : String)
  | appAdd (files : Files) (host : Host) (label exe : String)
  | routeAdd (host : Host) (request : RouteRequest)
  | routeRemove (id : String)
  | sign (system : System) (resolved : Outcome String ProcessEntry) (knownHashes : KnownHashes)
      (pid : Nat) (data : Bytes)

inductive Reply where
  | imported (result : ImportResult)
  | deleted
  | lines (lines : List String)
  | signature (certId : String) (signature : Bytes)
  deriving DecidableEq, Repr

variable (crates : Crates) (parsers : DerParsers) (master : Bytes)

def Job.steps : Job → Thread Database String Reply
  | .importCert host drawn certDer keyDer label => do
      let result ← (storeCertAndKeySteps crates master host parsers drawn certDer keyDer
        label).mapErr StoreError.toText
      pure (.imported result)
  | .deleteCert host label => do
      (deleteCertSteps master host label).mapErr StoreError.toText
      pure .deleted
  | .appAdd files host label exe => do
      let lines ← (appAddSteps crates host files label exe).mapErr CommandError.message
      pure (.lines lines)
  | .routeAdd host request => do
      let lines ← (routeAddSteps master host request).mapErr CommandError.message
      pure (.lines lines)
  | .routeRemove id => do
      let lines ← (routeRemoveSteps id).mapErr CommandError.message
      pure (.lines lines)
  | .sign system resolved knownHashes pid data => do
      let answer ← answerSignSteps crates master system resolved knownHashes pid data
      pure (.signature answer.1 answer.2)

/-- The processes at the start, on one database. -/
def pool {ι : Type} (jobs : ι → Job) (database : Database) : Pool Database ι String Reply :=
  { state := database
    threads := fun i => (jobs i).steps crates parsers master }

/-- Nothing happens to the database but what the processes do. -/
def nothingElse : Empty → Database → Database := fun event => event.elim

end Jobs

section Agreement

variable {ε δ α β : Type} {crates : Crates} {master : Bytes} {host : Host}

theorem execute_eq (statement : Statement) (session : Session) :
    execute statement session =
      ((issueCall statement session.database).1,
        { session with database := (issueCall statement session.database).2 }) := by
  have hinsert {ρ : Type} (table : Table ρ) (row : ρ) :
      table.insert row session =
        ((table.insert row { session with drawn := 0 }).1,
          { session with
            database := (table.insert row { session with drawn := 0 }).2.database }) := by
    unfold Table.insert
    cases table.conflict session.database row <;>
      cases table.references session.database row <;> rfl
  have hignore {ρ : Type} (table : Table ρ) (row : ρ) :
      table.insertOrIgnore row session =
        ((table.insertOrIgnore row { session with drawn := 0 }).1,
          { session with
            database := (table.insertOrIgnore row { session with drawn := 0 }).2.database }) := by
    unfold Table.insertOrIgnore
    cases table.conflict session.database row <;>
      cases table.references session.database row <;> rfl
  cases statement with
  | deleteCert id => rfl
  | deleteRoutes id => rfl
  | insertOrIgnoreRoute row => exact hignore routes row
  | insertOrIgnoreSshRoute row => exact hignore sshRoutes row
  | _ row => exact hinsert _ row

/-- The thread does by itself what the call does; an id that the call draws next is one that
the thread knows by its number. -/
def Follows (drawn : Nat) (thread : Thread Database ε α) (call : Effect Session ε α)
    (after : Nat) : Prop :=
  ∀ database, ∃ last,
    call { database := database, drawn := drawn } =
      ((thread.alone database).1, { database := (thread.alone database).2, drawn := last }) ∧
    ∀ value, (thread.alone database).1 = .ok value → last = after

theorem follows_issue (statement : Statement) (drawn : Nat) :
    Follows drawn (issue statement) (execute statement) drawn :=
  fun _ => ⟨drawn, execute_eq _ _, fun _ _ => rfl⟩

theorem follows_pure (value : α) (drawn : Nat) :
    Follows drawn (pure value : Thread Database ε α) (pure value) drawn :=
  fun _ => ⟨drawn, rfl, fun _ _ => rfl⟩

theorem Follows.newId {drawn after : Nat} {thread : Thread Database StoreError α}
    {call : String → Effect Session StoreError α}
    (h : Follows (drawn + 1) thread (call (host.newId drawn)) after) :
    Follows drawn thread (newId host >>= call) after := by
  intro database
  obtain ⟨last, hcall, hlast⟩ := h database
  refine ⟨last, ?_, hlast⟩
  rw [← hcall]
  exact Effect.bind_of_ok rfl

theorem Follows.bind {drawn middle after : Nat} {thread : Thread Database ε α}
    {call : Effect Session ε α} {rest : α → Thread Database ε β}
    {next : α → Effect Session ε β} (hfirst : Follows drawn thread call middle)
    (hnext : ∀ value, Follows middle (rest value) (next value) after) :
    Follows drawn (thread >>= rest) (call >>= next) after := by
  intro database
  obtain ⟨reached, hcall, hreached⟩ := hfirst database
  rw [Thread.alone_bind]
  rcases halone : thread.alone database with ⟨value | error | _, other⟩
  · rw [halone] at hcall hreached
    obtain rfl := hreached value rfl
    obtain ⟨last, hrest, hlast⟩ := hnext value other
    rw [Effect.bind_of_ok halone]
    exact ⟨last, by rw [Effect.bind_of_ok hcall, hrest], hlast⟩
  · rw [halone] at hcall
    rw [Effect.bind_of_err halone]
    exact ⟨reached, Effect.bind_of_err hcall, nofun⟩
  · rw [halone] at hcall
    rw [Effect.bind_of_panicked halone]
    exact ⟨reached, Effect.bind_of_panicked hcall, nofun⟩

variable (master) in
/-- The thread does by itself what the call does to the opened store. -/
def Agrees (thread : Thread Database ε α) (call : Effect Store ε α) : Prop :=
  ∀ database, call (.unlocked database master) =
    ((thread.alone database).1, .unlocked (thread.alone database).2 master)

theorem agrees_lift (outcome : Outcome ε α) :
    Agrees master (.done outcome) (Effect.lift outcome) :=
  fun _ => rfl

theorem agrees_pure (value : α) :
    Agrees master (pure value : Thread Database ε α) (pure value) :=
  fun _ => rfl

theorem agrees_query (view : Store → Outcome ε α) :
    Agrees master (query fun database => view (.unlocked database master)) (Effect.reads view) :=
  fun _ => rfl

theorem agrees_withConn {thread : Thread Database StoreError α}
    {body : Effect Session StoreError α} {after : Nat} (h : Follows 0 thread body after) :
    Agrees master thread (withConn body) := by
  intro database
  obtain ⟨last, hcall, -⟩ := h database
  exact withConn_unlocked hcall _

theorem Agrees.mapErr {thread : Thread Database ε α} {call : Effect Store ε α}
    (h : Agrees master thread call) (f : ε → δ) :
    Agrees master (thread.mapErr f) (Effect.mapErr f call) := by
  intro database
  rw [Thread.alone_mapErr, Effect.mapErr, h database]
  rfl

theorem Agrees.bind {thread : Thread Database ε α} {call : Effect Store ε α}
    {rest : α → Thread Database ε β} {next : α → Effect Store ε β}
    (hfirst : Agrees master thread call)
    (hnext : ∀ value, Agrees master (rest value) (next value)) :
    Agrees master (thread >>= rest) (call >>= next) := by
  intro database
  have hcall := hfirst database
  rw [Thread.alone_bind]
  rcases halone : thread.alone database with ⟨value | error | _, other⟩
  · rw [halone] at hcall
    rw [Effect.bind_of_ok halone, Effect.bind_of_ok hcall]
    exact hnext value other
  · rw [halone] at hcall
    rw [Effect.bind_of_err halone, Effect.bind_of_err hcall]
  · rw [halone] at hcall
    rw [Effect.bind_of_panicked halone, Effect.bind_of_panicked hcall]

/-- The passphrase is at hand in an opened store. -/
theorem Agrees.passphrase {thread : Thread Database StoreError α}
    {next : Bytes → Effect Store StoreError α} (h : Agrees master thread (next master)) :
    Agrees master thread (Effect.reads Store.passphrase >>= next) := by
  intro database
  rw [← h database]
  exact Effect.bind_of_ok rfl

theorem agrees_storeCertAndKey (parsers : DerParsers) (drawn : KeyRandomness)
    (certDer keyDer : Bytes) (label : String) :
    Agrees master (storeCertAndKeySteps crates master host parsers drawn certDer keyDer label)
      (storeCertAndKey host crates parsers drawn certDer keyDer label) := by
  apply (agrees_lift _).bind
  intro metadata
  apply (agrees_lift _).bind
  intro algorithm
  apply Agrees.passphrase
  apply (agrees_lift _).bind
  intro encrypted
  apply agrees_withConn
  apply Follows.newId
  apply Follows.newId
  apply (follows_issue (.insertCert _) _).bind
  intro _
  apply (follows_issue (.insertKey _) _).bind
  intro _
  apply Follows.newId
  exact (follows_issue (.insertAudit _) _).bind fun _ => follows_pure _ _

theorem agrees_deleteCert (label : String) :
    Agrees master (deleteCertSteps master host label) (deleteCert host label) := by
  apply (agrees_query _).bind
  intro cert
  apply agrees_withConn
  apply (follows_issue (.deleteCert _) _).bind
  intro _
  apply Follows.newId
  exact follows_issue (.insertAudit _) _

theorem agrees_appAdd (files : Files) (label exe : String) :
    Agrees master (appAddSteps crates host files label exe)
      (appAdd crates files host label exe) := by
  apply (agrees_lift _).bind
  intro hash
  refine Agrees.bind ?_ fun _ => agrees_pure _
  exact (agrees_withConn (follows_issue (.insertApp _) _).newId).mapErr _

theorem agrees_routeAdd (request : RouteRequest) :
    Agrees master (routeAddSteps master host request) (routeAdd host request) := by
  apply (agrees_query _).bind
  intro cert
  apply (agrees_query _).bind
  intro appId
  refine Agrees.bind ?_ fun _ => agrees_pure _
  apply Agrees.mapErr
  apply agrees_withConn
  apply Follows.newId
  exact (follows_issue (.insertRoute _) _).bind fun _ => follows_pure _ _

theorem agrees_routeRemove (id : String) :
    Agrees master (routeRemoveSteps id) (routeRemove id) := by
  refine Agrees.bind ?_ fun _ => agrees_pure _
  exact (agrees_withConn (follows_issue (.deleteRoutes _) 0)).mapErr _

end Agreement

section Signatures

variable {ε δ α β : Type} {crates : Crates} {master : Bytes}

/-- By itself the thread only reads. -/
def Views (thread : Thread Database ε α) (view : Database → Outcome ε α) : Prop :=
  ∀ database, thread.alone database = (view database, database)

theorem views_done (outcome : Outcome ε α) : Views (.done outcome) fun _ => outcome :=
  fun _ => rfl

theorem views_query (view : Database → Outcome ε α) : Views (query view) view := fun _ => rfl

theorem Views.mapErr {thread : Thread Database ε α} {view : Database → Outcome ε α}
    (h : Views thread view) (f : ε → δ) :
    Views (thread.mapErr f) fun database => (view database).mapErr f := by
  intro database
  rw [Thread.alone_mapErr, Effect.mapErr, h database]

theorem Views.bind {thread : Thread Database ε α} {view : Database → Outcome ε α}
    {rest : α → Thread Database ε β} {next : Database → α → Outcome ε β}
    (hfirst : Views thread view) (hnext : ∀ value, Views (rest value) fun database =>
      next database value) :
    Views (thread >>= rest) fun database => view database >>= next database := by
  intro database
  have halone := hfirst database
  change _ = (view database >>= next database, database)
  rw [Thread.alone_bind]
  rcases hview : view database with value | error | _
  · rw [hview] at halone
    rw [Effect.bind_of_ok halone]
    exact hnext value database
  · rw [hview] at halone
    rw [Effect.bind_of_err halone]
    rfl
  · rw [hview] at halone
    rw [Effect.bind_of_panicked halone]
    rfl

theorem views_resolveRoute (exePath remoteHost remoteIp : Option String) :
    Views (resolveRouteSteps master exePath remoteHost remoteIp) fun database =>
      resolveRoute (.unlocked database master) exePath remoteHost remoteIp := by
  apply (views_query _).bind
  intro routes
  apply (views_query _).bind
  intro apps
  exact views_done _

theorem views_tryConnections (process : ProcessEntry) (connections : List Connection) :
    Views (tryConnectionsSteps master process connections) fun database =>
      tryConnections (.unlocked database master) process connections := by
  induction connections with
  | nil => exact views_done _
  | cons connection rest ih =>
      apply ((views_resolveRoute _ _ _).mapErr _).bind
      intro certId
      cases certId with
      | some certId => exact views_done _
      | none => exact ih

theorem views_routeProcess (system : System) (knownHashes : KnownHashes) (pid : Nat)
    (process : ProcessEntry) :
    Views (routeProcessSteps master system knownHashes pid process) fun database =>
      routeProcess system (.unlocked database master) knownHashes pid process := by
  unfold routeProcessSteps routeProcess
  split
  · exact views_done _
  · apply (views_done _).bind
    intro connections
    apply (views_tryConnections process connections).bind
    intro found
    cases found with
    | some route => exact views_done _
    | none =>
        apply ((views_resolveRoute _ _ _).mapErr _).bind
        intro certId
        cases certId with
        | some certId => exact views_done _
        | none => exact views_done _

/-- What a request to sign comes to in one state of the database. -/
def signedAnswer (crates : Crates) (master : Bytes) (system : System)
    (resolved : Outcome String ProcessEntry) (knownHashes : KnownHashes) (pid : Nat)
    (data : Bytes) (database : Database) : Outcome String (String × Bytes) := do
  let process ← resolved
  let route ← routeProcess system (.unlocked database master) knownHashes pid process
  let signature ← signData crates (.unlocked database master) route.certId data
  pure (route.certId, signature)

theorem signData_eq (certId : String) (data : Bytes) (database : Database) :
    signData crates (.unlocked database master) certId data =
      selectKey certId database >>= signWithRow crates master data := by
  rw [signData, getPlaintextKey, selectKey, Store.conn_unlocked, Outcome.ok_bind]
  cases database.keys.find? fun row => row.certId = certId with
  | none => rfl
  | some row => rfl

theorem views_signData (certId : String) (data : Bytes) :
    Views (signDataSteps crates master certId data) fun database =>
      signData crates (.unlocked database master) certId data >>= fun signature =>
        pure (certId, signature) := by
  have hsteps : Views (signDataSteps crates master certId data) fun database =>
      selectKey certId database >>= fun row =>
        signWithRow crates master data row >>= fun signature => pure (certId, signature) :=
    (views_query _).bind fun row => views_query _
  intro database
  rw [hsteps database]
  simp only [signData_eq]
  cases selectKey certId database <;> rfl

theorem views_answerSign (system : System) (resolved : Outcome String ProcessEntry)
    (knownHashes : KnownHashes) (pid : Nat) (data : Bytes) :
    Views (answerSignSteps crates master system resolved knownHashes pid data)
      (signedAnswer crates master system resolved knownHashes pid data) := by
  apply (views_done _).bind
  intro process
  apply (views_routeProcess system knownHashes pid process).bind
  intro route
  exact views_signData route.certId data

def respond : Outcome String (String × Bytes) → Outcome String Response
  | .ok answer => .ok (.signature answer.1 answer.2)
  | .err message => .ok (.error message)
  | .panicked => .panicked

/-- With nothing in between, the steps make the answer of the daemon. -/
theorem answerSign_eq_alone (system : System) (knownHashes : KnownHashes) (pid : Nat)
    (data : Bytes) {shared : Shared} {database : Database} (hpoisoned : shared.poisoned = false)
    (hstore : shared.store = .unlocked database master) :
    (answerSign crates system knownHashes pid data shared).1 =
      respond ((answerSignSteps crates master system (resolve crates system pid shared.cache).1
        knownHashes pid data).alone database).1 := by
  rw [answerSign_fst crates system knownHashes pid data hpoisoned, resolveForPid_fst,
    views_answerSign, signedAnswer, hstore]
  cases (resolve crates system pid shared.cache).1 with
  | err message => rfl
  | panicked => rfl
  | ok process =>
      simp only [Outcome.ok_bind]
      cases routeProcess system (.unlocked database master) knownHashes pid process with
      | err message => rfl
      | panicked => rfl
      | ok route =>
          simp only [Outcome.ok_bind]
          cases signData crates (.unlocked database master) route.certId data <;> rfl

end Signatures

end TrafficCone.CommandThreads
