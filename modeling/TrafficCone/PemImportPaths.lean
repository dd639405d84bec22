import TrafficCone.PemKeyFormats

namespace TrafficCone.PemImportPaths

open TrafficCone.Outcomes
open TrafficCone.StoreModels
open TrafficCone.LinkedCrates
open TrafficCone.StoreListing
open TrafficCone.DatabaseTables
open TrafficCone.BackupArchives
open TrafficCone.PrivateKeyEncodings
open TrafficCone.CertificateImport
open TrafficCone.IntegrityChecks
open TrafficCone.KeyCustody
open TrafficCone.ImportAtomicity
open TrafficCone.StoredImports
open TrafficCone.ImportedKeyKinds
open TrafficCone.FileImports
open TrafficCone.PemKeyFormats

/-- Of the blocks of a text the parser of a single one finds the first. -/
def ParsesFirst (readers : FileReaders) : Prop :=
  ∀ text block blocks, readers.parseMany text = .ok (block :: blocks) →
    readers.parse text = .ok block

/-- A text with certificates and no key, one with keys, and the blocks of both where the
second follows the first. -/
structure SplitBundle (readers : FileReaders) (certPem keyPem : String)
    (certBlocks keyBlocks : List PemBlock) : Prop where
  first : readers.parseMany certPem = .ok certBlocks
  second : readers.parseMany keyPem = .ok keyBlocks
  joined : readers.parseMany (certPem ++ keyPem) = .ok (certBlocks ++ keyBlocks)
  certificate : certificates certBlocks ≠ []
  keyless : privateKeys certBlocks = []
  key : privateKeys keyBlocks ≠ []

/-- The certificate with the id, and its key. -/
structure StoredAs (crates : Crates) (store : Store) (certId : String) (certDer keyDer : Bytes) :
    Prop where
  cert : ∃ cert, getCertById store certId = .ok cert ∧ cert.certDer = certDer
  key : ∃ algorithm, getPlaintextKey crates store certId = .ok (keyDer, algorithm)

/-- Two imports have stored the same certificate and the same key. -/
def StoredAlike (crates : Crates) (first : ImportResult × Store) (second : ImportResult × Store) :
    Prop :=
  ∃ certDer keyDer, StoredAs crates first.2 first.1.certId certDer keyDer ∧
    StoredAs crates second.2 second.1.certId certDer keyDer

section Blocks

variable {first second : List PemBlock}

theorem head?_certificates_append (h : certificates first ≠ []) :
    (certificates (first ++ second)).head? = (certificates first).head? := by
  rw [certificates, List.filter_append, List.map_append]
  exact List.head?_append_of_ne_nil _ h

theorem privateKeys_append (h : privateKeys first = []) :
    privateKeys (first ++ second) = privateKeys second := by
  rw [privateKeys, List.filter_append, List.map_append]
  exact (congrArg (· ++ privateKeys second) h).trans (List.nil_append _)

end Blocks

variable {host otherHost : Host} {crates : Crates} {parsers : DerParsers}
  {drawn otherDrawn : KeyRandomness} {readers : FileReaders}

theorem storedAs_iff_of_storeCertAndKey (hcrates : Deciphers crates) {database : Database}
    (hsound : keys.Sound database) {certDer keyDer master : Bytes} {label : String}
    {result : ImportResult} {after : Store}
    (h : storeCertAndKey host crates parsers drawn certDer keyDer label
      (.unlocked database master) = (.ok result, after)) {found key : Bytes} :
    StoredAs crates after result.certId found key ↔ certDer = found ∧ keyDer = key := by
  obtain ⟨metadata, algorithm, encrypted, hprepared, hadmitted, rfl, rfl⟩ :=
    storeCertAndKey_eq_ok_iff.mp h
  have hcert := @getCertById_withImport _ _ _ _ _ _ _ master hadmitted
  have hplaintext := getPlaintextKey_withImport hcrates hsound hprepared hadmitted
  constructor
  · rintro ⟨⟨cert, hfound, rfl⟩, otherAlgorithm, hkey⟩
    obtain rfl := Outcome.ok.inj (hcert.symm.trans hfound)
    obtain ⟨rfl, -⟩ := Prod.mk.inj (Outcome.ok.inj (hplaintext.symm.trans hkey))
    exact ⟨rfl, rfl⟩
  · rintro ⟨rfl, rfl⟩
    exact ⟨⟨_, hcert, rfl⟩, algorithm, hplaintext⟩

/-- What an import of a file has stored can be read back, whatever the format was. -/
theorem exists_storedAs_of_importFile (hcrates : Deciphers crates) {files : Files}
    {database : Database} (hsound : keys.Sound database) {master : Bytes}
    {path passphrase label : String} {keyPath : Option String} {result : ImportResult}
    {after : Store}
    (h : importFile host crates parsers drawn readers files path passphrase label keyPath
      (.unlocked database master) = (.ok result, after)) :
    ∃ certDer keyDer, StoredAs crates after result.certId certDer keyDer := by
  obtain ⟨certDer, keyDer, stored, hstored, hresult⟩ :=
    storesCertAndKey_importFile path passphrase keyPath _ _ _ h
  have hcertId : result.certId = stored.certId := by
    rw [hresult]
  exact ⟨certDer, keyDer, hcertId ▸
    (storedAs_iff_of_storeCertAndKey hcrates hsound hstored).mpr ⟨rfl, rfl⟩⟩

/-- A bundle and its two halves are stored alike exactly if the first block of each half is
the block that is taken from the bundle. -/
theorem storedAlike_iff (hcrates : Deciphers crates) (hreaders : ParsesFirst readers)
    {certPem keyPem : String} {certBlocks keyBlocks : List PemBlock}
    (hsplit : SplitBundle readers certPem keyPem certBlocks keyBlocks)
    {master otherMaster : Bytes} {label otherLabel : String}
    {bundled separate : ImportResult} {bundledStore separateStore : Store}
    (hbundled : importPemBundle host crates parsers drawn readers (certPem ++ keyPem) label
      (.unlocked {} master) = (.ok bundled, bundledStore))
    (hseparate : importPemCertAndKey otherHost crates parsers otherDrawn readers certPem keyPem
      otherLabel (.unlocked {} otherMaster) = (.ok separate, separateStore)) :
    StoredAlike crates (bundled, bundledStore) (separate, separateStore) ↔
      certBlocks.head?.map (·.contents) = (certificates certBlocks).head? ∧
        keyBlocks.head?.map (·.contents) = (privateKeys keyBlocks).getLast? := by
  have hsound : keys.Sound {} := wellFormed_empty.keys
  obtain ⟨certBlock, certRest, rfl⟩ : ∃ block rest, certBlocks = block :: rest :=
    List.exists_cons_of_ne_nil (fun h => hsplit.certificate (h ▸ rfl))
  obtain ⟨keyBlock, keyRest, rfl⟩ : ∃ block rest, keyBlocks = block :: rest :=
    List.exists_cons_of_ne_nil (fun h => hsplit.key (h ▸ rfl))
  obtain ⟨certDer, hcert⟩ := Option.ne_none_iff_exists'.mp
    (fun h => hsplit.certificate (List.head?_eq_none_iff.mp h))
  obtain ⟨keyDer, hkey⟩ := Option.ne_none_iff_exists'.mp
    (fun h => hsplit.key (List.getLast?_eq_none_iff.mp h))
  rw [importPemBundle_of_blocks hsplit.joined
    ((head?_certificates_append hsplit.certificate).trans hcert)
    (by rw [privateKeys_append hsplit.keyless, hkey])] at hbundled
  rw [importPemCertAndKey_of_blocks (hreaders _ _ _ hsplit.first) (hreaders _ _ _ hsplit.second)]
    at hseparate
  simp only [StoredAlike, storedAs_iff_of_storeCertAndKey hcrates hsound hbundled,
    storedAs_iff_of_storeCertAndKey hcrates hsound hseparate, hcert, hkey, List.head?_cons,
    Option.map_some, Option.some_inj]
  constructor
  · rintro ⟨_, _, ⟨rfl, rfl⟩, hfirst, hsecond⟩
    exact ⟨hfirst, hsecond⟩
  · rintro ⟨hfirst, hsecond⟩
    exact ⟨certDer, keyDer, ⟨rfl, rfl⟩, hfirst, hsecond⟩

section Texts

open TrafficCone.CustodyRuns (deciphers_plainCrates hostAt officeRandomness)

theorem parsesFirst_readersOf (known : List (String × List PemBlock)) :
    ParsesFirst (readersOf known) := by
  intro text block blocks hblocks
  have hfound := Except.ok.inj hblocks
  simp only [readersOf]
  cases hlookup : known.lookup text with
  | none =>
      rw [hlookup] at hfound
      cases hfound
  | some found =>
      rw [hlookup] at hfound
      obtain rfl : found = block :: blocks := hfound
      rfl

def certBlock : PemBlock where
  tag := "CERTIFICATE"
  contents := [0x30, 1]

def keyBlock (octet : UInt8) : PemBlock where
  tag := "PRIVATE KEY"
  contents := curveKeyDer prime256v1 octet

def certPem : String := armoured "CERTIFICATE" "MAE="

def otherBody : String :=
  "MEECAQAwEwYHKoZIzj0CAQYIKoZIzj0DAQcEJzAlAgEBBCAJCQkJCQkJCQkJCQkJ\n" ++
    "CQkJCQkJCQkJCQkJCQkJCQkJCQ=="

def oneKeyPem : String := armoured "PRIVATE KEY" pkcs8Body

def twoKeysPem : String := armoured "PRIVATE KEY" pkcs8Body ++ armoured "PRIVATE KEY" otherBody

def splitReaders (keyPem : String) (keyBlocks : List PemBlock) : FileReaders :=
  readersOf [(certPem, [certBlock]), (keyPem, keyBlocks),
    (certPem ++ keyPem, certBlock :: keyBlocks)]

theorem storedAlike_oneKeyPem :
    StoredAlike pkcs8Crates
      (importResult (hostAt 'm') "laptop" officeMeta .ecP256,
        .unlocked (afterCurveKey prime256v1 7) [1])
      (importResult (hostAt 'm') "laptop" officeMeta .ecP256,
        .unlocked (afterCurveKey prime256v1 7) [1]) := by
  have hcrates : Deciphers pkcs8Crates := deciphers_plainCrates
  have hsplit : SplitBundle (splitReaders oneKeyPem [keyBlock 7]) certPem oneKeyPem [certBlock]
      [keyBlock 7] := by
    constructor <;> decide +kernel
  have hbundled : importPemBundle (hostAt 'm') pkcs8Crates pkcs8Parsers officeRandomness
      (splitReaders oneKeyPem [keyBlock 7]) (certPem ++ oneKeyPem) "laptop" (.unlocked {} [1]) =
        (.ok (importResult (hostAt 'm') "laptop" officeMeta .ecP256),
          .unlocked (afterCurveKey prime256v1 7) [1]) := by
    decide +kernel
  have hseparate : importPemCertAndKey (hostAt 'm') pkcs8Crates pkcs8Parsers officeRandomness
      (splitReaders oneKeyPem [keyBlock 7]) certPem oneKeyPem "laptop" (.unlocked {} [1]) =
        (.ok (importResult (hostAt 'm') "laptop" officeMeta .ecP256),
          .unlocked (afterCurveKey prime256v1 7) [1]) := by
    decide +kernel
  exact (storedAlike_iff hcrates (parsesFirst_readersOf _) hsplit hbundled hseparate).mpr
    ⟨rfl, rfl⟩

/-- Of two keys the bundle gives the last to the certificate, and the separate file the
first. -/
theorem two_keys_stored_differently :
    ParsesFirst (splitReaders twoKeysPem [keyBlock 7, keyBlock 9]) ∧
    SplitBundle (splitReaders twoKeysPem [keyBlock 7, keyBlock 9]) certPem twoKeysPem [certBlock]
      [keyBlock 7, keyBlock 9] ∧
    importPemBundle (hostAt 'm') pkcs8Crates pkcs8Parsers officeRandomness
        (splitReaders twoKeysPem [keyBlock 7, keyBlock 9]) (certPem ++ twoKeysPem) "laptop"
        (.unlocked {} [1]) =
      (.ok (importResult (hostAt 'm') "laptop" officeMeta .ecP256),
        .unlocked (afterCurveKey prime256v1 9) [1]) ∧
    importPemCertAndKey (hostAt 'm') pkcs8Crates pkcs8Parsers officeRandomness
        (splitReaders twoKeysPem [keyBlock 7, keyBlock 9]) certPem twoKeysPem "laptop"
        (.unlocked {} [1]) =
      (.ok (importResult (hostAt 'm') "laptop" officeMeta .ecP256),
        .unlocked (afterCurveKey prime256v1 7) [1]) ∧
    getPlaintextKey pkcs8Crates (.unlocked (afterCurveKey prime256v1 9) [1]) "m" ≠
      getPlaintextKey pkcs8Crates (.unlocked (afterCurveKey prime256v1 7) [1]) "m" := by
  refine ⟨parsesFirst_readersOf _, ?_, by decide +kernel, by decide +kernel, by decide +kernel⟩
  constructor <;> decide +kernel

end Texts

end TrafficCone.PemImportPaths
