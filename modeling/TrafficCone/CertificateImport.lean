import TrafficCone.BackupArchives
import TrafficCone.StoreListing

namespace TrafficCone.CertificateImport

open TrafficCone.Outcomes
open TrafficCone.StoreModels
open TrafficCone.HexadecimalText
open TrafficCone.LinkedCrates
open TrafficCone.StoreListing
open TrafficCone.DatabaseTables
open TrafficCone.BackupArchives

/-- What the parser of certificates finds; the times are seconds since the epoch. -/
structure Certificate where
  subject : String
  issuer : String
  notBefore : UInt64
  notAfter : UInt64
  deriving DecidableEq, Repr

/-- The parsers of DER: of a certificate, and of a private key, of which only the object
identifier of its algorithm is used. -/
structure DerParsers where
  certificateFromDer : Bytes → Except String Certificate
  privateKeyInfoFromDer : Bytes → Except String String

/-- The salt and the nonce drawn for one key. -/
structure KeyRandomness where
  salt : Bytes
  nonce : Bytes
  salt_length : salt.length = 32
  nonce_length : nonce.length = nonceLen

structure CertMeta where
  fingerprint : String
  subject : String
  issuer : String
  notBefore : Int
  notAfter : Int
  deriving DecidableEq, Repr

structure ImportResult where
  certId : String
  summary : String
  caChain : List Bytes
  deriving DecidableEq, Repr

def hashBytes (crates : Crates) (bytes : Bytes) : String := hexEncode (crates.sha256 bytes)

def parseCertMetadata (crates : Crates) (parsers : DerParsers) (certDer : Bytes) :
    Outcome StoreError CertMeta := do
  let cert ← (Outcome.ofExcept (parsers.certificateFromDer certDer)).mapErr fun error =>
    StoreError.importFailure ("invalid certificate: " ++ error)
  pure
    { fingerprint := hashBytes crates certDer
      subject := cert.subject
      issuer := cert.issuer
      notBefore := cert.notBefore.toInt64.toInt
      notAfter := cert.notAfter.toInt64.toInt }

def algorithmOf (oid : String) (keyLength : Nat) : Outcome StoreError KeyAlgorithm :=
  -- The size of an RSA modulus is guessed from the length of the encoding.
  if oid = "1.2.840.113549.1.1.1" then .ok (if 1000 < keyLength then .rsa4096 else .rsa2048)
  else if oid = "1.2.840.10045.2.1" then .ok .ecP256
  else .err (.importFailure ("unsupported key algorithm OID: " ++ oid ++
    " — only RSA and EC keys are supported"))

def detectKeyAlgorithm (parsers : DerParsers) (keyDer : Bytes) :
    Outcome StoreError KeyAlgorithm := do
  let oid ← (Outcome.ofExcept (parsers.privateKeyInfoFromDer keyDer)).mapErr fun error =>
    StoreError.importFailure ("failed to parse private key: " ++ error)
  algorithmOf oid keyDer.length

/-- The text of an algorithm in the column of the table, as its `Debug` form. -/
def algorithmName : KeyAlgorithm → String
  | .rsa2048 => "Rsa2048"
  | .rsa4096 => "Rsa4096"
  | .ecP256 => "EcP256"
  | .ecP384 => "EcP384"

/-- What the formatter writes the parser reads back. -/
theorem parseAlgorithm_algorithmName (algorithm : KeyAlgorithm) :
    parseAlgorithm (algorithmName algorithm) = .ok algorithm := by
  cases algorithm <;> decide

section Storing

variable (host : Host)

def importedCert (certId : String) (certDer : Bytes) (label : String) (metadata : CertMeta) :
    Cert :=
  { id := certId
    label := label
    certDer := certDer
    fingerprint := metadata.fingerprint
    subject := metadata.subject
    issuer := metadata.issuer
    notBefore := metadata.notBefore
    notAfter := metadata.notAfter
    createdAt := host.unixNow }

def importedKey (keyId certId : String) (algorithm : KeyAlgorithm)
    (encrypted : Bytes × Bytes × Bytes) : KeyRow :=
  { id := keyId
    certId := certId
    algorithm := algorithmName algorithm
    keyEnc := encrypted.1
    keySalt := encrypted.2.1
    keyNonce := encrypted.2.2 }

def importedEntry (id certId label : String) : AuditEntry :=
  { id := id
    eventType := "cert_imported"
    certId := some certId
    sshKeyId := none
    appId := none
    detail := some ("Imported: " ++ label)
    occurredAt := host.unixNow }

def summaryOf (label : String) (algorithm : KeyAlgorithm) (metadata : CertMeta) : String :=
  "Imported: " ++ label ++ " (" ++ algorithmName algorithm ++ ")\n  Subject: " ++
    metadata.subject ++ "\n  Expires: " ++ toString metadata.notAfter

/-- The three statements of an import. Each is committed by itself. -/
def insertImported (certDer : Bytes) (label : String) (metadata : CertMeta)
    (algorithm : KeyAlgorithm) (encrypted : Bytes × Bytes × Bytes) :
    Effect Session StoreError ImportResult := do
  let certId ← newId host
  let keyId ← newId host
  certs.insert (importedCert host certId certDer label metadata)
  keys.insert (importedKey keyId certId algorithm encrypted)
  let auditId ← newId host
  auditLog.insert (importedEntry host auditId certId label)
  pure
    { certId := certId
      summary := summaryOf label algorithm metadata
      caChain := [] }

/-- Encrypt the key under the master passphrase, and store it with its certificate. Every
format of import ends here. -/
def storeCertAndKey (crates : Crates) (parsers : DerParsers) (drawn : KeyRandomness)
    (certDer keyDer : Bytes) (label : String) : Effect Store StoreError ImportResult := do
  let metadata ← Effect.lift (parseCertMetadata crates parsers certDer)
  let algorithm ← Effect.lift (detectKeyAlgorithm parsers keyDer)
  let master ← Effect.reads Store.passphrase
  let encrypted ← Effect.lift (encryptKey crates drawn.salt drawn.nonce keyDer master)
  withConn (insertImported host certDer label metadata algorithm encrypted)

variable {host}

theorem of_storeCertAndKey {crates : Crates} {parsers : DerParsers} {drawn : KeyRandomness}
    {certDer keyDer : Bytes} {label : String} {database : Database} {master : Bytes}
    {result : ImportResult} {store : Store}
    (h : storeCertAndKey host crates parsers drawn certDer keyDer label
      (.unlocked database master) = (.ok result, store)) :
    ∃ metadata algorithm encrypted session,
      detectKeyAlgorithm parsers keyDer = .ok algorithm ∧
      encryptKey crates drawn.salt drawn.nonce keyDer master = .ok encrypted ∧
      insertImported host certDer label metadata algorithm encrypted
        { database := database, drawn := 0 } = (.ok result, session) ∧
      store = .unlocked session.database master := by
  rw [storeCertAndKey] at h
  obtain ⟨metadata, -, h⟩ := Effect.lift_bind_eq_ok_iff.mp h
  obtain ⟨algorithm, halgorithm, h⟩ := Effect.lift_bind_eq_ok_iff.mp h
  obtain ⟨found, hfound, h⟩ := Effect.reads_bind_eq_ok_iff.mp h
  obtain rfl : master = found := Outcome.ok.inj hfound
  obtain ⟨encrypted, hencrypted, h⟩ := Effect.lift_bind_eq_ok_iff.mp h
  obtain ⟨session, hsession, hstore⟩ := withConn_eq_ok_iff.mp h
  exact ⟨metadata, algorithm, encrypted, session, halgorithm, hencrypted, hsession, hstore⟩

end Storing

end TrafficCone.CertificateImport
