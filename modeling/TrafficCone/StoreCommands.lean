import TrafficCone.CertificateImport
import TrafficCone.IntegrityChecks

namespace TrafficCone.StoreCommands

open TrafficCone.Outcomes
open TrafficCone.StoreModels
open TrafficCone.LinkedCrates
open TrafficCone.StoreListing
open TrafficCone.DatabaseTables
open TrafficCone.BackupArchives
open TrafficCone.IntegrityChecks

section Deleting

def getCertByLabel (store : Store) (label : String) : Outcome StoreError Cert := do
  let database ← store.conn
  Outcome.ofOption (.notFound ("no certificate with label '" ++ label ++ "'"))
    (database.certs.find? fun row => row.label = label)

/-- Keys and routes go with their certificate. -/
def withoutCert (id : String) (database : Database) : Database :=
  { database with
    certs := database.certs.filter fun row => row.id ≠ id
    keys := database.keys.filter fun row => row.certId ≠ id
    routes := database.routes.filter fun row => row.certId ≠ id }

def deleteFromCerts (id : String) : Effect Session StoreError Unit := fun session =>
  (.ok (), { session with database := withoutCert id session.database })

def deletedEntry (host : Host) (id certId label : String) : AuditEntry :=
  { id := id
    eventType := "cert_deleted"
    certId := some certId
    sshKeyId := none
    appId := none
    detail := some ("Deleted cert: " ++ label)
    occurredAt := host.unixNow }

def deleteRecorded (host : Host) (certId label : String) : Effect Session StoreError Unit := do
  deleteFromCerts certId
  let id ← newId host
  auditLog.insert (deletedEntry host id certId label)

def deleteCert (host : Host) (label : String) : Effect Store StoreError Unit := do
  let cert ← Effect.reads fun store => getCertByLabel store label
  withConn (deleteRecorded host cert.id label)

theorem of_deleteCert {host : Host} {label : String} {database : Database} {master : Bytes}
    {result : Unit} {store : Store}
    (h : deleteCert host label (.unlocked database master) = (.ok result, store)) :
    ∃ cert session, getCertByLabel (.unlocked database master) label = .ok cert ∧
      deleteRecorded host cert.id label { database := database, drawn := 0 } =
        (.ok result, session) ∧
      store = .unlocked session.database master := by
  rw [deleteCert] at h
  obtain ⟨cert, hcert, h⟩ := Effect.reads_bind_eq_ok_iff.mp h
  obtain ⟨session, hsession, hstore⟩ := withConn_eq_ok_iff.mp h
  exact ⟨cert, session, hcert, hsession, hstore⟩

end Deleting

/-- An error of the command line: the message it shows, and the error behind it. -/
structure CommandError where
  message : String
  cause : Option StoreError
  deriving DecidableEq, Repr

def CommandError.ofStore (error : StoreError) : CommandError :=
  { message := error.toText, cause := none }

def CommandError.context (message : String) (error : StoreError) : CommandError :=
  { message := message, cause := some error }

section Apps

def registeredApp (host : Host) (id label exe hash : String) : App :=
  { id := id
    label := label
    exePath := exe
    exeHash := hash
    registeredAt := host.unixNow }

def insertApp (host : Host) (label exe hash : String) : Effect Session StoreError Unit := do
  let id ← newId host
  apps.insert (registeredApp host id label exe hash)

/-- `cone app add`, on the store that the command has opened. -/
def appAdd (crates : Crates) (files : Files) (host : Host) (label exe : String) :
    Effect Store CommandError (List String) := do
  let hash ← Effect.lift ((hashFile crates files exe).mapErr CommandError.ofStore)
  Effect.mapErr (CommandError.context "Failed to register application")
    (withConn (insertApp host label exe hash))
  pure ["Registered '" ++ label ++ "' at " ++ exe,
    "Hash: " ++ String.ofList (hash.toList.take 16)]

theorem of_appAdd {crates : Crates} {files : Files} {host : Host} {label exe : String}
    {database : Database} {master : Bytes} {lines : List String} {store : Store}
    (h : appAdd crates files host label exe (.unlocked database master) = (.ok lines, store)) :
    ∃ hash session, hashFile crates files exe = .ok hash ∧
      insertApp host label exe hash { database := database, drawn := 0 } = (.ok (), session) ∧
      store = .unlocked session.database master := by
  rw [appAdd] at h
  obtain ⟨hash, hhash, h⟩ := Effect.lift_bind_eq_ok_iff.mp h
  obtain ⟨_, store', hinsert, h⟩ := Effect.bind_eq_ok_iff.mp h
  obtain rfl : store' = store := (Prod.mk.inj h).2
  obtain ⟨session, hsession, hstore⟩ :=
    withConn_eq_ok_iff.mp (Effect.mapErr_eq_ok_iff.mp hinsert)
  exact ⟨hash, session, Outcome.mapErr_eq_ok_iff.mp hhash, hsession, hstore⟩

end Apps

section Routes

structure RouteRequest where
  cert : String
  app : Option String
  host : Option String
  ip : Option String
  requireBoth : Bool
  priority : Int
  deriving DecidableEq, Repr

/-- A host is preferred to an address; with neither, the route is for any destination. -/
def matchOf : Option String → Option String → String × Option String
  | some host, _ => ("hostname", some host)
  | none, some ip => ("ip", some ip)
  | none, none => ("hostname", none)

def appNotFound (label : String) : CommandError :=
  { message := "App '" ++ label ++ "' not found — register it first with: " ++
      "cone app add --label \"" ++ label ++ "\" --exe /path/to/binary"
    cause := none }

def findAppId (store : Store) : Option String → Outcome CommandError (Option String)
  | none => .ok none
  | some label => do
      let apps ← (listApps store).mapErr CommandError.ofStore
      let app ← Outcome.ofOption (appNotFound label) (apps.find? fun app => app.label = label)
      pure (some app.id)

def requestedRoute (host : Host) (id certId : String) (appId : Option String)
    (request : RouteRequest) : RouteRow :=
  { id := id
    certId := certId
    appId := appId
    matchType := (matchOf request.host request.ip).1
    pattern := (matchOf request.host request.ip).2
    requireBoth := if request.requireBoth then 1 else 0
    priority := request.priority
    createdAt := host.unixNow }

def insertRoute (host : Host) (certId : String) (appId : Option String)
    (request : RouteRequest) : Effect Session StoreError String := do
  let id ← newId host
  routes.insert (requestedRoute host id certId appId request)
  pure id

/-- `cone route add`: the certificate and the application are looked up by their labels. -/
def routeAdd (host : Host) (request : RouteRequest) :
    Effect Store CommandError (List String) := do
  let cert ← Effect.reads fun store => (getCertByLabel store request.cert).mapErr fun _ =>
    { message := "Certificate '" ++ request.cert ++ "' not found", cause := none }
  let appId ← Effect.reads fun store => findAppId store request.app
  let id ← Effect.mapErr (CommandError.context "Failed to add route")
    (withConn (insertRoute host cert.id appId request))
  pure ["Route added (id: " ++ String.ofList (id.toList.take 8) ++ ")"]

theorem of_routeAdd {host : Host} {request : RouteRequest} {database : Database}
    {master : Bytes} {lines : List String} {store : Store}
    (h : routeAdd host request (.unlocked database master) = (.ok lines, store)) :
    ∃ cert appId id session, getCertByLabel (.unlocked database master) request.cert = .ok cert ∧
      findAppId (.unlocked database master) request.app = .ok appId ∧
      insertRoute host cert.id appId request { database := database, drawn := 0 } =
        (.ok id, session) ∧
      store = .unlocked session.database master := by
  rw [routeAdd] at h
  obtain ⟨cert, hcert, h⟩ := Effect.reads_bind_eq_ok_iff.mp h
  obtain ⟨appId, happ, h⟩ := Effect.reads_bind_eq_ok_iff.mp h
  obtain ⟨id, store', hinsert, h⟩ := Effect.bind_eq_ok_iff.mp h
  obtain rfl : store' = store := (Prod.mk.inj h).2
  obtain ⟨session, hsession, hstore⟩ :=
    withConn_eq_ok_iff.mp (Effect.mapErr_eq_ok_iff.mp hinsert)
  exact ⟨cert, appId, id, session, Outcome.mapErr_eq_ok_iff.mp hcert, happ, hsession, hstore⟩

/-- The `LIKE` of SQL: `%` stands for any text, `_` for any character, and letters of ASCII
match in either case. -/
def like : List Char → List Char → Bool
  | [], text => text.isEmpty
  | '%' :: pattern, text => text.tails.any (like pattern)
  | _ :: _, [] => false
  | '_' :: pattern, _ :: text => like pattern text
  | letter :: pattern, other :: text => letter.toLower = other.toLower && like pattern text

def removes (id : String) (row : RouteRow) : Bool :=
  row.id = id || like (id ++ "%").toList row.id.toList

def deleteFromRoutes (id : String) : Effect Session StoreError Unit := fun session =>
  (.ok (),
    { session with
      database := routes.withRows session.database
        ((routes.rows session.database).filter fun row => !removes id row) })

def routeRemove (id : String) : Effect Store CommandError (List String) := do
  Effect.mapErr CommandError.ofStore (withConn (deleteFromRoutes id))
  pure ["Route removed."]

theorem of_routeRemove {id : String} {database : Database} {master : Bytes}
    {lines : List String} {store : Store}
    (h : routeRemove id (.unlocked database master) = (.ok lines, store)) :
    ∃ session, deleteFromRoutes id { database := database, drawn := 0 } = (.ok (), session) ∧
      store = .unlocked session.database master := by
  rw [routeRemove] at h
  obtain ⟨_, store', hdelete, h⟩ := Effect.bind_eq_ok_iff.mp h
  obtain rfl : store' = store := (Prod.mk.inj h).2
  exact withConn_eq_ok_iff.mp (Effect.mapErr_eq_ok_iff.mp hdelete)

example : like "a1%".toList "A1ff".toList = true := by decide

end Routes

end TrafficCone.StoreCommands
