import TrafficCone.FileImports
import TrafficCone.ImportedKeyKinds

namespace TrafficCone.PemKeyFormats

open TrafficCone.Outcomes
open TrafficCone.StoreModels
open TrafficCone.LinkedCrates
open TrafficCone.StoreListing
open TrafficCone.DatabaseTables
open TrafficCone.BackupArchives
open TrafficCone.DerEncoding
open TrafficCone.PrivateKeyEncodings
open TrafficCone.CertificateImport
open TrafficCone.IntegrityChecks
open TrafficCone.KeyCustody
open TrafficCone.ImportAtomicity
open TrafficCone.StoredImports
open TrafficCone.ImportedKeyKinds
open TrafficCone.FileImports

inductive KeyFormat where
  | pkcs8
  | sec1
  | pkcs1
  | encrypted
  deriving DecidableEq, Repr

namespace KeyFormat

def tag : KeyFormat → String
  | .pkcs8 => "PRIVATE KEY"
  | .sec1 => "EC PRIVATE KEY"
  | .pkcs1 => "RSA PRIVATE KEY"
  | .encrypted => "ENCRYPTED PRIVATE KEY"

/-- The octets are the key in the format, which under a cipher takes the passphrase. A key of
SEC 1 that stands alone names its curve. -/
def Holds (decipher : AlgorithmIdentifier → Bytes → String → Option Bytes) (passphrase : String)
    (key : PrivateKey) : KeyFormat → Bytes → Prop
  | .pkcs8, contents => key.Pkcs8 contents
  | .sec1, contents =>
      ∃ (curve : Bytes) (encoded : EcPrivateKey), key = .ec curve encoded.privateKey ∧
        encoded.parameters = some (element objectIdentifierTag curve) ∧
        encoded.contents.length < lengthLimit ∧ contents = encoded.encode
  | .pkcs1, contents =>
      ∃ rsa : RsaPrivateKey, key = .rsa rsa ∧ rsa.contents.length < lengthLimit ∧
        contents = rsa.encode
  | .encrypted, contents =>
      ∃ (info : EncryptedPrivateKeyInfo) (der : Bytes),
        decipher info.algorithm info.encryptedData passphrase = some der ∧ key.Pkcs8 der ∧
        info.contents.length < lengthLimit ∧ contents = info.encode

theorem tag_mem_keyTags (format : KeyFormat) : format.tag ∈ keyTags := by
  cases format <;> decide

variable {decipher : AlgorithmIdentifier → Bytes → String → Option Bytes} {passphrase : String}
  {key : PrivateKey} {contents : Bytes}

/-- No two of the formats have octets in common with that of PKCS #8. -/
theorem eq_pkcs8_of_encodedAs {format : KeyFormat} {info : PrivateKeyInfo}
    (hholds : format.Holds decipher passphrase key contents) (hinfo : info.EncodedAs contents) :
    format = .pkcs8 := by
  cases format with
  | pkcs8 => rfl
  | sec1 =>
      obtain ⟨curve, encoded, -, -, hlength, rfl⟩ := hholds
      exact absurd hinfo (EcPrivateKey.not_encodedAs hlength)
  | pkcs1 =>
      obtain ⟨rsa, -, hlength, rfl⟩ := hholds
      exact absurd hinfo (RsaPrivateKey.not_encodedAs hlength)
  | encrypted =>
      obtain ⟨encrypted, der, -, -, hlength, rfl⟩ := hholds
      exact absurd hinfo (EncryptedPrivateKeyInfo.not_encodedAs hlength)

end KeyFormat

/-- The parser finds a block where the text has its header. -/
def FindsHeaders (readers : FileReaders) : Prop :=
  ∀ text blocks, readers.parseMany text = .ok blocks →
    ∀ block ∈ blocks, contains text (header block.tag) = true

/-- The file at the path is a text in PEM with one certificate and one private key, perhaps
among blocks of other kinds. -/
structure OneOfEach (readers : FileReaders) (files : Files) (path : String) (certDer : Bytes)
    (keyBlock : PemBlock) : Prop where
  format : detectFormat readers path = .ok .pem
  blocks : ∃ text blocks, readToString files path = .ok text ∧
    readers.parseMany text = .ok blocks ∧ certificates blocks = [certDer] ∧
    (blocks.filter fun block => block.tag ∈ keyTags) = [keyBlock]

/-- The certificate is not in the store, and the ids drawn for it and its key are new. -/
structure NotYetHeld (host : Host) (crates : Crates) (certDer : Bytes) (database : Database) :
    Prop where
  fingerprint : hashBytes crates certDer ∉ database.certs.map (·.fingerprint)
  certId : host.newId 0 ∉ database.certs.map (·.id)
  keyId : host.newId 1 ∉ database.keys.map (·.id)
  auditId : host.newId 2 ∉ database.auditLog.map (·.id)

/-- The key can be encrypted under the master passphrase. -/
def Encrypts (crates : Crates) (master keyBytes : Bytes) : Prop :=
  ∀ salt nonce, salt.length = 32 → nonce.length = nonceLen →
    ∃ encrypted, encryptKey crates salt nonce keyBytes master = .ok encrypted

section Importing

variable {host : Host} {crates : Crates} {parsers : DerParsers} {drawn : KeyRandomness}
  {readers : FileReaders} {files : Files} {database : Database} {certDer master : Bytes}
  {keyBlock : PemBlock} {path label : String}

/-- A file with one of each is imported as these two are. -/
theorem importFile_of_oneOfEach (hreaders : FindsHeaders readers)
    (h : OneOfEach readers files path certDer keyBlock) (passphrase label : String)
    (keyPath : Option String) :
    importFile host crates parsers drawn readers files path passphrase label keyPath =
      storeCertAndKey host crates parsers drawn certDer keyBlock.contents label := by
  obtain ⟨text, blocks, hread, hblocks, hcerts, hkeys⟩ := h.blocks
  have hcert : hasCert text = true := by
    obtain ⟨block, hblock, -⟩ :=
      List.mem_map.mp (hcerts ▸ List.mem_singleton_self certDer : certDer ∈ certificates blocks)
    obtain ⟨hmem, htag⟩ := List.mem_filter.mp hblock
    have hheader := hreaders text blocks hblocks block hmem
    rwa [of_decide_eq_true htag] at hheader
  have hkey : hasKey text = true := by
    obtain ⟨hmem, htag⟩ := List.mem_filter.mp (hkeys ▸ List.mem_singleton_self keyBlock)
    exact List.any_eq_true.mpr
      ⟨keyBlock.tag, of_decide_eq_true htag, hreaders text blocks hblocks keyBlock hmem⟩
  rw [importFile_of_bundle h.format hread hcert hkey]
  apply importPemBundle_of_blocks hblocks
  · rw [hcerts]
    rfl
  · rw [privateKeys, hkeys]
    rfl

theorem admitted_of_notYetHeld (h : NotYetHeld host crates certDer database)
    {metadata : CertMeta} (hmetadata : parseCertMetadata crates parsers certDer = .ok metadata)
    (algorithm : KeyAlgorithm) (encrypted : Bytes × Bytes × Bytes) :
    Admitted host certDer label metadata algorithm encrypted database := by
  have hfingerprint : metadata.fingerprint = hashBytes crates certDer := by
    obtain ⟨certificate, -, hfound⟩ := Outcome.bind_eq_ok_iff.mp hmetadata
    obtain rfl := Outcome.ok.inj hfound
    rfl
  constructor
  · rw [Table.conflict_eq_none_iff]
    intro column hcolumn
    rcases List.mem_cons.mp hcolumn with rfl | hcolumn
    · exact h.certId
    · obtain rfl := List.mem_singleton.mp hcolumn
      change metadata.fingerprint ∉ database.certs.map (·.fingerprint)
      rw [hfingerprint]
      exact h.fingerprint
  · rw [Table.conflict_eq_none_iff]
    intro column hcolumn
    obtain rfl := List.mem_singleton.mp hcolumn
    exact h.keyId
  · rw [Table.conflict_eq_none_iff]
    intro column hcolumn
    obtain rfl := List.mem_singleton.mp hcolumn
    exact h.auditId

/-- The import of the file succeeds, and the key that is stored is a PKCS #8 encoding of the
one that the file has. -/
def ImportsKey (host : Host) (crates : Crates) (parsers : DerParsers) (drawn : KeyRandomness)
    (readers : FileReaders) (files : Files) (path passphrase label : String)
    (keyPath : Option String) (database : Database) (master : Bytes) (key : PrivateKey) : Prop :=
  ∃ result after keyDer algorithm,
    importFile host crates parsers drawn readers files path passphrase label keyPath
        (.unlocked database master) = (.ok result, after) ∧
      getPlaintextKey crates after result.certId = .ok (keyDer, algorithm) ∧ key.Pkcs8 keyDer

/-- Of the four formats in which a file may have its key, one is imported. -/
theorem importsKey_iff_pkcs8 (hcrates : Deciphers crates) {contents : Bytes}
    (hparsers : ReadsPrivateKeys parsers contents) (hreaders : FindsHeaders readers)
    {decipher : AlgorithmIdentifier → Bytes → String → Option Bytes} {key : PrivateKey}
    {format : KeyFormat} {passphrase : String}
    (hfile : OneOfEach readers files path certDer { tag := format.tag, contents := contents })
    (hholds : format.Holds decipher passphrase key contents)
    (hcert : ∃ certificate, parsers.certificateFromDer certDer = .ok certificate)
    (hencrypts : Encrypts crates master contents) (hsound : keys.Sound database)
    (habsent : NotYetHeld host crates certDer database) (label : String)
    (keyPath : Option String) :
    ImportsKey host crates parsers drawn readers files path passphrase label keyPath database
        master key ↔
      format = .pkcs8 := by
  constructor
  · rintro ⟨result, after, keyDer, algorithm, himport, -, -⟩
    rw [importFile_of_oneOfEach hreaders hfile] at himport
    obtain ⟨metadata, _, encrypted, hprepared, -⟩ := storeCertAndKey_eq_ok_iff.mp himport
    obtain ⟨info, hinfo⟩ := exists_encodedAs_of_detectKeyAlgorithm hparsers hprepared.algorithm
    exact KeyFormat.eq_pkcs8_of_encodedAs hholds hinfo
  · rintro rfl
    obtain ⟨certificate, hcertificate⟩ := hcert
    obtain ⟨encrypted, hencrypted⟩ :=
      hencrypts drawn.salt drawn.nonce drawn.salt_length drawn.nonce_length
    have hmetadata : ∃ metadata, parseCertMetadata crates parsers certDer = .ok metadata := by
      rw [parseCertMetadata, hcertificate]
      exact ⟨_, rfl⟩
    obtain ⟨metadata, hmetadata⟩ := hmetadata
    have hprepared : Prepared crates parsers drawn certDer contents master metadata
        (guessed contents key) encrypted :=
      ⟨hmetadata, detectKeyAlgorithm_of_pkcs8 hparsers hholds, hencrypted⟩
    have hadmitted : Admitted host certDer label metadata (guessed contents key) encrypted
        database := admitted_of_notYetHeld habsent hmetadata _ _
    have hstored := storeCertAndKey_eq_ok_iff.mpr
      ⟨metadata, _, encrypted, hprepared, hadmitted, rfl, rfl⟩
    rw [← importFile_of_oneOfEach hreaders hfile passphrase label keyPath] at hstored
    exact ⟨_, _, contents, guessed contents key, hstored,
      getPlaintextKey_withImport hcrates hsound hprepared hadmitted, hholds⟩

end Importing

section Files

open TrafficCone.CustodyRuns (deciphers_plainCrates hostAt officeRandomness)

def armoured (tag body : String) : String :=
  header tag ++ "\n" ++ body ++ "\n-----END " ++ tag ++ "-----\n"

def laptopText (tag body : String) : String := armoured "CERTIFICATE" "MAE=" ++ armoured tag body

def laptopBlocks (keyBlock : PemBlock) : List PemBlock :=
  [{ tag := "CERTIFICATE", contents := [0x30, 1] }, keyBlock]

/-- Readers that have learned the blocks of some texts. -/
def readersOf (known : List (String × List PemBlock)) : FileReaders where
  toLowercase text := String.ofList (text.toList.map Char.toLower)
  fromPkcs12 _ _ := .error "not a keystore"
  parseMany text := .ok ((known.lookup text).getD [])
  parse text :=
    match known.lookup text with
    | some (block :: _) => .ok block
    | _ => .error "malformedframing"

def laptopReaders (keyBlock : PemBlock) (body : String) : FileReaders :=
  readersOf [(laptopText keyBlock.tag body, laptopBlocks keyBlock)]

def laptopFiles (keyBlock : PemBlock) (body : String) : Files := fun path =>
  if path = "laptop.pem" then .ok (asBytes (laptopText keyBlock.tag body))
  else .error "No such file or directory (os error 2)"

theorem findsHeaders_readersOf {known : List (String × List PemBlock)}
    (h : ∀ entry ∈ known, ∀ block ∈ entry.2, contains entry.1 (header block.tag) = true) :
    FindsHeaders (readersOf known) := by
  intro text blocks hblocks block hblock
  obtain rfl := Except.ok.inj hblocks
  cases hfound : known.lookup text with
  | none =>
      rw [hfound] at hblock
      cases hblock
  | some found =>
      rw [hfound] at hblock
      obtain ⟨before, after, rfl, -⟩ := List.lookup_eq_some_iff.mp hfound
      exact h (text, found) (by simp) block hblock

theorem contains_armoured (before tag body after : String) :
    contains (before ++ armoured tag body ++ after) (header tag) = true := by
  rw [contains_eq_true_iff]
  refine ⟨before.toList, ("\n" ++ body ++ "\n-----END " ++ tag ++ "-----\n" ++ after).toList, ?_⟩
  simp only [armoured, String.toList_append, List.append_assoc]

theorem findsHeaders_laptopReaders (keyBlock : PemBlock) (body : String) :
    FindsHeaders (laptopReaders keyBlock body) := by
  apply findsHeaders_readersOf
  intro entry hentry block hblock
  obtain rfl := List.mem_singleton.mp hentry
  rcases List.mem_cons.mp hblock with rfl | hblock
  · exact contains_armoured "" "CERTIFICATE" "MAE=" (armoured keyBlock.tag body)
  · obtain rfl := List.mem_singleton.mp hblock
    have hkey := contains_armoured (armoured "CERTIFICATE" "MAE=") block.tag body ""
    rwa [String.append_empty] at hkey

theorem oneOfEach_laptop (keyBlock : PemBlock) (h : keyBlock.tag ∈ keyTags) (body : String) :
    OneOfEach (laptopReaders keyBlock body) (laptopFiles keyBlock body) "laptop.pem" [0x30, 1]
      keyBlock where
  format := by
    have hextension : extension "laptop.pem" = some "pem" := by decide
    rw [detectFormat, hextension]
    simp [laptopReaders, readersOf]
  blocks := by
    have hcert : keyBlock.tag ≠ "CERTIFICATE" := fun hcert => certificate_not_key (hcert ▸ h)
    refine ⟨laptopText keyBlock.tag body, laptopBlocks keyBlock,
      readToString_of_asBytes (if_pos rfl), ?_, ?_, ?_⟩
    · simp [laptopReaders, readersOf]
    · simp [certificates, laptopBlocks, hcert]
    · simp [laptopBlocks, h, certificate_not_key]

theorem encrypts_pkcs8Crates (master keyBytes : Bytes) : Encrypts pkcs8Crates master keyBytes := by
  intro salt nonce hsalt hnonce
  have hlength : ¬ salt.length < 8 := by omega
  refine ⟨(keyBytes ++ List.replicate 16 0, salt, nonce), ?_⟩
  simp [encryptKey, deriveKey, pkcs8Crates, plainCrates, hlength]

def pkcs8Block : PemBlock where
  tag := KeyFormat.pkcs8.tag
  contents := curveKeyDer prime256v1 7

def pkcs8Body : String :=
  "MEECAQAwEwYHKoZIzj0CAQYIKoZIzj0DAQcEJzAlAgEBBCAHBwcHBwcHBwcHBwcH\n" ++
    "BwcHBwcHBwcHBwcHBwcHBwcHBw=="

theorem importsKey_pkcs8Block :
    ImportsKey (hostAt 'm') pkcs8Crates pkcs8Parsers officeRandomness
      (laptopReaders pkcs8Block pkcs8Body) (laptopFiles pkcs8Block pkcs8Body) "laptop.pem" ""
      "laptop" none {} [1] (curveKey prime256v1 7) := by
  have hcrates : Deciphers pkcs8Crates := deciphers_plainCrates
  have hfile := oneOfEach_laptop pkcs8Block (KeyFormat.tag_mem_keyTags .pkcs8) pkcs8Body
  have hkey : KeyFormat.Holds (fun _ _ _ => none) "" (curveKey prime256v1 7) .pkcs8
      pkcs8Block.contents := pkcs8_curveKeyDer (by decide +kernel)
  have habsent : NotYetHeld (hostAt 'm') pkcs8Crates [0x30, 1] {} := by
    constructor <;> simp
  exact (importsKey_iff_pkcs8 hcrates (readsPrivateKeys_pkcs8Parsers _)
    (findsHeaders_laptopReaders pkcs8Block pkcs8Body) hfile hkey ⟨_, rfl⟩
    (encrypts_pkcs8Crates _ _) wellFormed_empty.keys habsent "laptop" none).mpr rfl

def sec1Key : EcPrivateKey where
  privateKey := List.replicate 32 7
  parameters := some (element objectIdentifierTag prime256v1)
  publicKey := none

def sec1Block : PemBlock where
  tag := KeyFormat.sec1.tag
  contents := sec1Key.encode

def sec1Body : String :=
  "MDECAQEEIAcHBwcHBwcHBwcHBwcHBwcHBwcHBwcHBwcHBwcHBwcHoAoGCCqGSM49\n" ++ "AwEH"

/-- A file with the key in the format of SEC 1 is refused. -/
theorem sec1_file_refused :
    FindsHeaders (laptopReaders sec1Block sec1Body) ∧
    OneOfEach (laptopReaders sec1Block sec1Body) (laptopFiles sec1Block sec1Body) "laptop.pem"
      [0x30, 1] sec1Block ∧
    KeyFormat.Holds (fun _ _ _ => none) "" (curveKey prime256v1 7) .sec1 sec1Block.contents ∧
    importFile (hostAt 'm') pkcs8Crates pkcs8Parsers officeRandomness
        (laptopReaders sec1Block sec1Body) (laptopFiles sec1Block sec1Body) "laptop.pem" ""
        "laptop" none (.unlocked {} [1]) =
      (.err (.importFailure "failed to parse private key: PKCS#8 ASN.1 error"),
        .unlocked {} [1]) := by
  have hreaders := findsHeaders_laptopReaders sec1Block sec1Body
  have hfile := oneOfEach_laptop sec1Block (KeyFormat.tag_mem_keyTags .sec1) sec1Body
  refine ⟨hreaders, hfile, ⟨_, sec1Key, rfl, rfl, by decide +kernel, rfl⟩, ?_⟩
  rw [importFile_of_oneOfEach hreaders hfile]
  decide +kernel

end Files

end TrafficCone.PemKeyFormats
