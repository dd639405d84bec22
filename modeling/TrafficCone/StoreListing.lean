import Mathlib.Data.List.Sort
import TrafficCone.LinkedCrates

namespace TrafficCone.StoreListing

open TrafficCone.Outcomes
open TrafficCone.StoreModels
open TrafficCone.LinkedCrates

/-- `ORDER BY label ASC`; text columns compare byte by byte. -/
def orderByLabel {ρ : Type} (label : ρ → String) (rows : List ρ) : List ρ :=
  rows.insertionSort fun first second => label first ≤ label second

def listCerts (store : Store) : Outcome StoreError (List Cert) := do
  let database ← store.conn
  pure (orderByLabel (·.label) database.certs)

def parseAlgorithm (text : String) : Outcome StoreError KeyAlgorithm :=
  if text = "Rsa2048" then .ok .rsa2048
  else if text = "Rsa4096" then .ok .rsa4096
  else if text = "EcP256" then .ok .ecP256
  else if text = "EcP384" then .ok .ecP384
  else .err (.crypto ("unknown key algorithm in database: " ++ text))

def getPlaintextKey (crates : Crates) (store : Store) (certId : String) :
    Outcome StoreError (Bytes × KeyAlgorithm) := do
  let database ← store.conn
  let row ← Outcome.ofOption
    (.notFound ("no private key found for cert '" ++ certId ++ "'"))
    (database.keys.find? fun row => row.certId = certId)
  let master ← store.passphrase
  let plaintext ← decryptKey crates row.keyEnc row.keySalt row.keyNonce master
  let algorithm ← parseAlgorithm row.algorithm
  pure (plaintext, algorithm)

/-- Every key is listed as Ed25519: the algorithm column is selected, but not
read. -/
def listSshKeys (store : Store) : Outcome StoreError (List SshKey) := do
  let database ← store.conn
  pure ((orderByLabel (·.label) database.sshKeys).map fun row =>
    { id := row.id
      label := row.label
      publicKey := row.publicKey
      algorithm := .ed25519
      keyEnc := row.keyEnc
      keySalt := row.keySalt
      keyNonce := row.keyNonce
      createdAt := row.createdAt })

def getSshPlaintextKey (crates : Crates) (store : Store) (label : String) :
    Outcome StoreError Bytes := do
  let database ← store.conn
  let row ← Outcome.ofOption (.notFound ("no SSH key with label '" ++ label ++ "'"))
    (database.sshKeys.find? fun row => row.label = label)
  let master ← store.passphrase
  decryptKey crates row.keyEnc row.keySalt row.keyNonce master

def listApps (store : Store) : Outcome StoreError (List App) := do
  let database ← store.conn
  pure (orderByLabel (·.label) database.apps)

def readMatchType (text : String) : MatchType :=
  if text = "ip" then .ip
  else if text = "ip_cidr" then .ipCidr
  else .hostname

def readRoute (row : RouteRow) : Route :=
  { id := row.id
    certId := row.certId
    appId := row.appId
    matchType := readMatchType row.matchType
    pattern := row.pattern
    requireBoth := row.requireBoth ≠ 0
    priority := row.priority
    createdAt := row.createdAt }

/-- `ORDER BY priority DESC, created_at ASC`. -/
def orderRoutes (rows : List RouteRow) : List RouteRow :=
  rows.insertionSort fun first second =>
    second.priority < first.priority ∨
      (first.priority = second.priority ∧ first.createdAt ≤ second.createdAt)

def listRoutes (store : Store) : Outcome StoreError (List Route) := do
  let database ← store.conn
  pure ((orderRoutes database.routes).map readRoute)

section LockedStore

@[simp] theorem listCerts_locked : listCerts .locked = .err .locked := rfl

@[simp] theorem getPlaintextKey_locked (crates : Crates) (certId : String) :
    getPlaintextKey crates .locked certId = .err .locked := rfl

@[simp] theorem listSshKeys_locked : listSshKeys .locked = .err .locked := rfl

@[simp] theorem listApps_locked : listApps .locked = .err .locked := rfl

@[simp] theorem listRoutes_locked : listRoutes .locked = .err .locked := rfl

end LockedStore

@[simp] theorem listApps_unlocked (database : Database) (master : Bytes) :
    listApps (.unlocked database master) = .ok (orderByLabel (·.label) database.apps) := rfl

@[simp] theorem listRoutes_unlocked (database : Database) (master : Bytes) :
    listRoutes (.unlocked database master) =
      .ok ((orderRoutes database.routes).map readRoute) := rfl

end TrafficCone.StoreListing
