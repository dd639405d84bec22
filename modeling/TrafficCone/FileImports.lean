import Mathlib.Data.List.Infix
import TrafficCone.CertificateImport
import TrafficCone.IntegrityChecks
import TrafficCone.TextScanning

namespace TrafficCone.FileImports

open TrafficCone.Outcomes
open TrafficCone.StoreModels
open TrafficCone.TextScanning
open TrafficCone.LinkedCrates
open TrafficCone.DatabaseTables
open TrafficCone.BackupArchives
open TrafficCone.CertificateImport
open TrafficCone.IntegrityChecks

/-- A block of a text in PEM: what its header names, and the octets between the lines. -/
structure PemBlock where
  tag : String
  contents : Bytes
  deriving DecidableEq, Repr

/-- A key from a keystore with its certificates, of which the first is that of the key. -/
structure KeyChain where
  key : Bytes
  chain : List Bytes
  deriving DecidableEq, Repr

/-- What the linked crates make of files: of a keystore under a passphrase the first chain
with a key, and of a text all its blocks or the first. The letters of a text in lower case are
those of the tables of Unicode. -/
structure FileReaders where
  toLowercase : String → String
  fromPkcs12 : Bytes → String → Except String (Option KeyChain)
  parseMany : String → Except String (List PemBlock)
  parse : String → Except String PemBlock

inductive ImportFormat where
  | pkcs12
  | pem
  | der
  deriving DecidableEq, Repr

section Paths

/-- `Path::file_name`: the last component of a path, unless it is that of the parent. -/
def fileName (path : String) : Option (List Char) := do
  let part ← ((path.toList.splitOn '/').filter fun part => part ≠ [] ∧ part ≠ ['.']).getLast?
  if part = ['.', '.'] then none else some part

/-- `Path::extension`: what follows the last dot of the file name, if the dot has something in
front of it. -/
def extension (path : String) : Option String := do
  let name ← fileName path
  let rest ← afterLast '.' name
  if rest.length + 1 = name.length then none else some (String.ofList rest)

example : extension "/home/anna/.certs/laptop.tar.PEM/." = some "PEM" := by decide

def detectFormat (readers : FileReaders) (path : String) : Outcome StoreError ImportFormat :=
  let ext := readers.toLowercase ((extension path).getD "")
  if ext = "pfx" ∨ ext = "p12" then .ok .pkcs12
  else if ext = "pem" ∨ ext = "key" then .ok .pem
  else if ext = "crt" ∨ ext = "cer" ∨ ext = "der" then .ok .der
  else .err (.importFailure ("unrecognised file extension '." ++ ext ++
    "' — supported: pfx, p12, pem, key, crt, cer, der"))

def read (files : Files) (path : String) : Outcome StoreError Bytes :=
  (Outcome.ofExcept (files path)).mapErr .io

def readToString (files : Files) (path : String) : Outcome StoreError String := do
  let bytes ← read files path
  Outcome.ofOption (.io "stream did not contain valid UTF-8") (String.fromUTF8? ⟨bytes.toArray⟩)

theorem fromUTF8?_asBytes (text : String) :
    String.fromUTF8? ⟨(asBytes text).toArray⟩ = some text := by
  have hbytes : (⟨(asBytes text).toArray⟩ : ByteArray) = text.toByteArray := by
    simp [asBytes, String.toUTF8]
  rw [hbytes, String.fromUTF8?, dif_pos text.isValidUTF8]
  rfl

theorem readToString_of_asBytes {files : Files} {path text : String}
    (h : files path = .ok (asBytes text)) : readToString files path = .ok text := by
  rw [readToString, read, h, Outcome.ofExcept_ok, Outcome.mapErr_ok, Outcome.ok_bind,
    fromUTF8?_asBytes]
  rfl

end Paths

section Blocks

def keyTags : List String :=
  ["PRIVATE KEY", "EC PRIVATE KEY", "RSA PRIVATE KEY", "ENCRYPTED PRIVATE KEY"]

def header (tag : String) : String := "-----BEGIN " ++ tag ++ "-----"

def contains (text pattern : String) : Bool := pattern.toList <:+: text.toList

theorem contains_eq_true_iff {text pattern : String} :
    contains text pattern = true ↔ pattern.toList <:+: text.toList :=
  decide_eq_true_iff

def hasCert (pemData : String) : Bool := contains pemData (header "CERTIFICATE")

def hasKey (pemData : String) : Bool := keyTags.any fun tag => contains pemData (header tag)

/-- What has been found in the blocks of a bundle so far. -/
structure BundleParts where
  certDer : Option Bytes := none
  keyDer : Option Bytes := none
  deriving DecidableEq, Repr

def takeBlock (parts : BundleParts) (block : PemBlock) : BundleParts :=
  if block.tag = "CERTIFICATE" then
    if parts.certDer.isNone then { parts with certDer := some block.contents } else parts
  else if block.tag ∈ keyTags then { parts with keyDer := some block.contents }
  else parts

def certificates (blocks : List PemBlock) : List Bytes :=
  (blocks.filter fun block => block.tag = "CERTIFICATE").map (·.contents)

def privateKeys (blocks : List PemBlock) : List Bytes :=
  (blocks.filter fun block => block.tag ∈ keyTags).map (·.contents)

theorem certificate_not_key : "CERTIFICATE" ∉ keyTags := by decide

theorem foldl_takeBlock (blocks : List PemBlock) (parts : BundleParts) :
    blocks.foldl takeBlock parts =
      { certDer := parts.certDer.or (certificates blocks).head?
        keyDer := (privateKeys blocks).getLast?.or parts.keyDer } := by
  induction blocks generalizing parts with
  | nil => simp [certificates, privateKeys]
  | cons block blocks ih =>
      rw [List.foldl_cons, ih, takeBlock, certificates, certificates, privateKeys, privateKeys]
      by_cases hcert : block.tag = "CERTIFICATE"
      · cases hfound : parts.certDer <;> simp [hcert, hfound, certificate_not_key]
      · by_cases hkey : block.tag ∈ keyTags
        · simp [hcert, hkey, List.getLast?_cons]
        · simp [hcert, hkey]

end Blocks

section Importing

variable (host : Host) (crates : Crates) (parsers : DerParsers) (drawn : KeyRandomness)
  (readers : FileReaders) (files : Files)

/-- Import a keystore. The other certificates of the chain are offered with the result. -/
def importPkcs12 (path passphrase label : String) : Effect Store StoreError ImportResult := do
  let fileBytes ← Effect.lift (read files path)
  let found ← Effect.lift ((Outcome.ofExcept (readers.fromPkcs12 fileBytes passphrase)).mapErr
    fun error => .importFailure
      ("failed to open PFX file — wrong passphrase or unsupported format: " ++ error))
  let chain ← Effect.lift (Outcome.ofOption (.importFailure ("PFX file contains no private key " ++
    "— only certificate-only PFX files are not supported for mTLS use")) found)
  match chain.chain with
  | [] => Effect.lift (.err (.importFailure "PFX file contains no certificates"))
  | certDer :: caChain => do
      let result ← storeCertAndKey host crates parsers drawn certDer chain.key label
      pure { result with caChain := caChain }

/-- Import the blocks of one text: its first certificate with its last key. -/
def importPemBundle (pemData label : String) : Effect Store StoreError ImportResult := do
  let blocks ← Effect.lift ((Outcome.ofExcept (readers.parseMany pemData)).mapErr
    fun error => .importFailure ("failed to parse PEM: " ++ error))
  let parts := blocks.foldl takeBlock {}
  let certDer ← Effect.lift
    (Outcome.ofOption (.importFailure "no certificate found in PEM file") parts.certDer)
  let keyDer ← Effect.lift
    (Outcome.ofOption (.importFailure "no private key found in PEM file") parts.keyDer)
  storeCertAndKey host crates parsers drawn certDer keyDer label

/-- Import the first blocks of two texts, whatever their tags are. -/
def importPemCertAndKey (certPem keyPem label : String) :
    Effect Store StoreError ImportResult := do
  let certBlock ← Effect.lift ((Outcome.ofExcept (readers.parse certPem)).mapErr
    fun error => .importFailure ("failed to parse cert PEM: " ++ error))
  let keyBlock ← Effect.lift ((Outcome.ofExcept (readers.parse keyPem)).mapErr
    fun error => .importFailure ("failed to parse key PEM: " ++ error))
  storeCertAndKey host crates parsers drawn certBlock.contents keyBlock.contents label

/-- Import a text that may have a certificate, a key, or both. The passphrase of the file is
not used. -/
def importPem (path _passphrase label : String) (keyPath : Option String) :
    Effect Store StoreError ImportResult := do
  let pemData ← Effect.lift (readToString files path)
  match hasCert pemData, hasKey pemData with
  | true, true => importPemBundle host crates parsers drawn readers pemData label
  | true, false => do
      let keyData ← Effect.lift (match keyPath with
        | some keyPath => readToString files keyPath
        | none => .err (.importFailure ("PEM file contains a certificate but no private key. " ++
            "Provide the key file with --key.")))
      importPemCertAndKey host crates parsers drawn readers pemData keyData label
  | false, true => Effect.lift (.err (.importFailure
      "PEM file contains only a private key. Provide the certificate with --cert."))
  | false, false => Effect.lift (.err (.importFailure
      "File does not appear to contain a certificate or private key."))

def importDer (path label : String) (keyPath : Option String) :
    Effect Store StoreError ImportResult := do
  let certDer ← Effect.lift (read files path)
  let _ ← Effect.lift ((Outcome.ofExcept (parsers.certificateFromDer certDer)).mapErr
    fun error => StoreError.importFailure ("invalid DER certificate: " ++ error))
  match keyPath with
  | some keyPath => do
      let keyPem ← Effect.lift (readToString files keyPath)
      let block ← Effect.lift ((Outcome.ofExcept (readers.parse keyPem)).mapErr
        fun error => .importFailure ("failed to parse key file: " ++ error))
      storeCertAndKey host crates parsers drawn certDer block.contents label
  | none => Effect.lift (.err (.importFailure
      "DER certificate requires a private key file. Provide it with --key."))

def importFile (path passphrase label : String) (keyPath : Option String) :
    Effect Store StoreError ImportResult := do
  let format ← Effect.lift (detectFormat readers path)
  match format with
  | .pkcs12 => importPkcs12 host crates parsers drawn readers files path passphrase label
  | .pem => importPem host crates parsers drawn readers files path passphrase label keyPath
  | .der => importDer host crates parsers drawn readers files path label keyPath

variable {host crates parsers drawn readers files}

theorem importPemBundle_of_blocks {pemData label : String} {blocks : List PemBlock}
    {certDer keyDer : Bytes} (hblocks : readers.parseMany pemData = .ok blocks)
    (hcert : (certificates blocks).head? = some certDer)
    (hkey : (privateKeys blocks).getLast? = some keyDer) :
    importPemBundle host crates parsers drawn readers pemData label =
      storeCertAndKey host crates parsers drawn certDer keyDer label := by
  rw [importPemBundle, hblocks, Outcome.ofExcept_ok, Outcome.mapErr_ok, Effect.lift_ok_bind]
  simp only [foldl_takeBlock, hcert, hkey, Option.none_or, Option.some_or, Outcome.ofOption_some,
    Effect.lift_ok_bind]

theorem importPemCertAndKey_of_blocks {certPem keyPem label : String}
    {certBlock keyBlock : PemBlock} (hcert : readers.parse certPem = .ok certBlock)
    (hkey : readers.parse keyPem = .ok keyBlock) :
    importPemCertAndKey host crates parsers drawn readers certPem keyPem label =
      storeCertAndKey host crates parsers drawn certBlock.contents keyBlock.contents label := by
  rw [importPemCertAndKey, hcert, hkey, Outcome.ofExcept_ok, Outcome.ofExcept_ok,
    Outcome.mapErr_ok, Outcome.mapErr_ok, Effect.lift_ok_bind, Effect.lift_ok_bind]

/-- A text with a certificate and a key in it is imported as a bundle, whatever the
passphrase and the path of the key are. -/
theorem importFile_of_bundle {path passphrase label pemData : String} {keyPath : Option String}
    (hformat : detectFormat readers path = .ok .pem)
    (hread : readToString files path = .ok pemData) (hcert : hasCert pemData = true)
    (hkey : hasKey pemData = true) :
    importFile host crates parsers drawn readers files path passphrase label keyPath =
      importPemBundle host crates parsers drawn readers pemData label := by
  rw [importFile, hformat, Effect.lift_ok_bind]
  change importPem host crates parsers drawn readers files path passphrase label keyPath = _
  rw [importPem.eq_def, hread, Effect.lift_ok_bind, hcert, hkey]

/-- Where the call succeeds, it has stored a certificate and a key. Only the rest of a chain
is not in what that gives. -/
def StoresCertAndKey (host : Host) (crates : Crates) (parsers : DerParsers)
    (drawn : KeyRandomness) (label : String) (call : Effect Store StoreError ImportResult) : Prop :=
  ∀ store result after, call store = (.ok result, after) →
    ∃ certDer keyDer stored,
      storeCertAndKey host crates parsers drawn certDer keyDer label store = (.ok stored, after) ∧
        result = { stored with caChain := result.caChain }

section Converging

variable {label : String}

theorem storesCertAndKey_lift_bind {α : Type} {outcome : Outcome StoreError α}
    {next : α → Effect Store StoreError ImportResult}
    (h : ∀ value, StoresCertAndKey host crates parsers drawn label (next value)) :
    StoresCertAndKey host crates parsers drawn label (Effect.lift outcome >>= next) := by
  intro store result after hcall
  obtain ⟨value, -, hnext⟩ := Effect.lift_bind_eq_ok_iff.mp hcall
  exact h value store result after hnext

theorem storesCertAndKey_err (error : StoreError) :
    StoresCertAndKey host crates parsers drawn label (Effect.lift (.err error)) := by
  intro store result after hcall
  cases hcall

theorem storesCertAndKey_storeCertAndKey (certDer keyDer : Bytes) :
    StoresCertAndKey host crates parsers drawn label
      (storeCertAndKey host crates parsers drawn certDer keyDer label) := by
  intro store result after hcall
  exact ⟨certDer, keyDer, result, hcall, rfl⟩

theorem storesCertAndKey_importPkcs12 (path passphrase : String) :
    StoresCertAndKey host crates parsers drawn label
      (importPkcs12 host crates parsers drawn readers files path passphrase label) := by
  apply storesCertAndKey_lift_bind
  intro fileBytes
  apply storesCertAndKey_lift_bind
  intro found
  apply storesCertAndKey_lift_bind
  intro chain
  rcases chain with ⟨key, _ | ⟨certDer, caChain⟩⟩
  · exact storesCertAndKey_err _
  · intro store result after hcall
    obtain ⟨stored, _, hstored, hresult⟩ := Effect.bind_eq_ok_iff.mp hcall
    obtain ⟨hok, rfl⟩ := Prod.mk.inj hresult
    obtain rfl := Outcome.ok.inj hok
    exact ⟨certDer, key, stored, hstored, rfl⟩

theorem storesCertAndKey_importPem (path passphrase : String) (keyPath : Option String) :
    StoresCertAndKey host crates parsers drawn label
      (importPem host crates parsers drawn readers files path passphrase label keyPath) := by
  rw [importPem.eq_def]
  apply storesCertAndKey_lift_bind
  intro pemData
  cases hasCert pemData with
  | true =>
      cases hasKey pemData with
      | true =>
          apply storesCertAndKey_lift_bind
          intro blocks
          apply storesCertAndKey_lift_bind
          intro certDer
          apply storesCertAndKey_lift_bind
          exact storesCertAndKey_storeCertAndKey certDer
      | false =>
          apply storesCertAndKey_lift_bind
          intro keyData
          apply storesCertAndKey_lift_bind
          intro certBlock
          apply storesCertAndKey_lift_bind
          intro keyBlock
          exact storesCertAndKey_storeCertAndKey certBlock.contents keyBlock.contents
  | false => cases hasKey pemData <;> exact storesCertAndKey_err _

theorem storesCertAndKey_importDer (path : String) (keyPath : Option String) :
    StoresCertAndKey host crates parsers drawn label
      (importDer host crates parsers drawn readers files path label keyPath) := by
  apply storesCertAndKey_lift_bind
  intro certDer
  apply storesCertAndKey_lift_bind
  intro _
  cases keyPath with
  | none => exact storesCertAndKey_err _
  | some keyPath =>
      apply storesCertAndKey_lift_bind
      intro keyPem
      apply storesCertAndKey_lift_bind
      intro block
      exact storesCertAndKey_storeCertAndKey certDer block.contents

/-- All formats of import end in the same one way of storing. -/
theorem storesCertAndKey_importFile (path passphrase : String) (keyPath : Option String) :
    StoresCertAndKey host crates parsers drawn label
      (importFile host crates parsers drawn readers files path passphrase label keyPath) := by
  apply storesCertAndKey_lift_bind
  intro format
  cases format with
  | pkcs12 => exact storesCertAndKey_importPkcs12 path passphrase
  | pem => exact storesCertAndKey_importPem path passphrase keyPath
  | der => exact storesCertAndKey_importDer path keyPath

end Converging

end Importing

end TrafficCone.FileImports
