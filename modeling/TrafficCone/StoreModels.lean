import TrafficCone.Outcomes

namespace TrafficCone.StoreModels

open TrafficCone.Outcomes

abbrev Bytes : Type := List UInt8

def asBytes (text : String) : Bytes := text.toUTF8.data.toList

structure Cert where
  id : String
  label : String
  certDer : Bytes
  fingerprint : String
  subject : String
  issuer : String
  notBefore : Int
  notAfter : Int
  createdAt : Int
  deriving DecidableEq, Repr

/-- A row of `keys`; the algorithm is the text of its column. -/
structure KeyRow where
  id : String
  certId : String
  algorithm : String
  keyEnc : Bytes
  keySalt : Bytes
  keyNonce : Bytes
  deriving DecidableEq, Repr

structure SshKeyRow where
  id : String
  label : String
  publicKey : String
  algorithm : String
  keyEnc : Bytes
  keySalt : Bytes
  keyNonce : Bytes
  createdAt : Int
  deriving DecidableEq, Repr

structure CaCert where
  id : String
  label : String
  certPem : String
  fingerprint : String
  subject : String
  notAfter : Int
  systemFile : Option String
  createdAt : Int
  deriving DecidableEq, Repr

structure App where
  id : String
  label : String
  exePath : String
  exeHash : String
  registeredAt : Int
  deriving DecidableEq, Repr

structure RouteRow where
  id : String
  certId : String
  appId : Option String
  matchType : String
  pattern : Option String
  requireBoth : Int
  priority : Int
  createdAt : Int
  deriving DecidableEq, Repr

structure SshRoute where
  id : String
  sshKeyId : String
  appId : Option String
  hostPattern : Option String
  createdAt : Int
  deriving DecidableEq, Repr

structure IntegrityRecord where
  id : String
  component : String
  path : String
  sha256 : String
  version : String
  recordedAt : Int
  verifiedAt : Option Int
  deriving DecidableEq, Repr

structure AuditEntry where
  id : String
  eventType : String
  certId : Option String
  sshKeyId : Option String
  appId : Option String
  detail : Option String
  occurredAt : Int
  deriving DecidableEq, Repr

inductive KeyAlgorithm where
  | rsa2048
  | rsa4096
  | ecP256
  | ecP384
  deriving DecidableEq, Repr

inductive SshAlgorithm where
  | ed25519
  | ecdsaP256
  | rsa4096
  deriving DecidableEq, Repr

inductive MatchType where
  | hostname
  | ip
  | ipCidr
  deriving DecidableEq, Repr

structure Route where
  id : String
  certId : String
  appId : Option String
  matchType : MatchType
  pattern : Option String
  requireBoth : Bool
  priority : Int
  createdAt : Int
  deriving DecidableEq, Repr

structure SshKey where
  id : String
  label : String
  publicKey : String
  algorithm : SshAlgorithm
  keyEnc : Bytes
  keySalt : Bytes
  keyNonce : Bytes
  createdAt : Int
  deriving DecidableEq, Repr

/-- The rows of the nine application tables, each in row order. -/
structure Database where
  certs : List Cert := []
  keys : List KeyRow := []
  sshKeys : List SshKeyRow := []
  caCerts : List CaCert := []
  apps : List App := []
  routes : List RouteRow := []
  sshRoutes : List SshRoute := []
  integrity : List IntegrityRecord := []
  auditLog : List AuditEntry := []
  deriving DecidableEq, Repr

inductive StoreError where
  | database (message : String)
  | wrongPassphrase
  | locked
  | integrityFailure (message : String)
  | importFailure (message : String)
  | crypto (message : String)
  | notFound (message : String)
  | io (message : String)
  deriving DecidableEq, Repr

def StoreError.toText : StoreError → String
  | .database message => "database error: " ++ message
  | .wrongPassphrase => "wrong passphrase or corrupted database"
  | .locked => "store is locked — call unlock() first"
  | .integrityFailure message => "integrity check failed: " ++ message
  | .importFailure message => "import error: " ++ message
  | .crypto message => "cryptographic error: " ++ message
  | .notFound message => "not found: " ++ message
  | .io message => "io error: " ++ message

/-- The store handle: locked, or unlocked with the open database and the master
passphrase. -/
inductive Store where
  | locked
  | unlocked (database : Database) (passphrase : Bytes)
  deriving DecidableEq, Repr

namespace Store

def lock (_ : Store) : Store := .locked

def isUnlocked : Store → Bool
  | .locked => false
  | .unlocked _ _ => true

def conn : Store → Outcome StoreError Database
  | .locked => .err .locked
  | .unlocked database _ => .ok database

def passphrase : Store → Outcome StoreError Bytes
  | .locked => .err .locked
  | .unlocked _ passphrase => .ok passphrase

@[simp] theorem conn_locked : Store.locked.conn = .err .locked := rfl

@[simp] theorem conn_unlocked (database : Database) (master : Bytes) :
    (Store.unlocked database master).conn = .ok database := rfl

@[simp] theorem passphrase_unlocked (database : Database) (master : Bytes) :
    (Store.unlocked database master).passphrase = .ok master := rfl

end Store

end TrafficCone.StoreModels
