import Mathlib.Data.Nat.Size
import TrafficCone.IpcServing
import TrafficCone.PrivateKeyEncodings
import TrafficCone.StoredImports

namespace TrafficCone.ImportedKeyKinds

open TrafficCone.Outcomes
open TrafficCone.StoreModels
open TrafficCone.LinkedCrates
open TrafficCone.StoreListing
open TrafficCone.DatabaseTables
open TrafficCone.BackupArchives
open TrafficCone.DerEncoding
open TrafficCone.PrivateKeyEncodings
open TrafficCone.CertificateImport
open TrafficCone.IpcServing
open TrafficCone.KeyCustody
open TrafficCone.ImportAtomicity
open TrafficCone.StoredImports

/-- What the parsers of keys make of a key in PKCS #8: its algorithm is found, and it is
accepted for P-256 or for RSA just if it is such a key; an RSA key that is not very short can
make signatures. -/
structure KeyReaders (crates : Crates) (parsers : DerParsers) (key : PrivateKey)
    (der : Bytes) : Prop where
  info : ReadsPrivateKeys parsers der
  p256 : (∃ scalar, crates.p256FromPkcs8Der der = .ok scalar) ↔
    ∃ scalar, key = .ec prime256v1 scalar
  rsa : (∃ parsed, crates.rsaFromPkcs8Der der = .ok parsed) ↔ ∃ rsa, key = .rsa rsa
  signs : ∀ rsa parsed data, key = .rsa rsa → 512 ≤ rsa.modulus.size →
    crates.rsaFromPkcs8Der der = .ok parsed → crates.rsaSignSha256 parsed data ≠ none

/-- The name that there is for keys of the kind, if there is one. -/
def kindName : PrivateKey → Option KeyAlgorithm
  | .rsa key =>
      if key.modulus.size = 2048 then some .rsa2048
      else if key.modulus.size = 4096 then some .rsa4096
      else none
  | .ec curve _ =>
      if curve = prime256v1 then some .ecP256
      else if curve = secp384r1 then some .ecP384
      else none

/-- Whatever is to be signed is signed with the key of the certificate, and the algorithm
recorded for it is what the key is. -/
structure Usable (crates : Crates) (key : PrivateKey) (database : Database) (master : Bytes)
    (certId : String) : Prop where
  signs : ∀ data, ∃ signature,
    signData crates (.unlocked database master) certId data = .ok signature
  named : ∀ row ∈ database.keys, row.certId = certId →
    ∃ algorithm, kindName key = some algorithm ∧ row.algorithm = algorithmName algorithm

/-- A key on P-256, or an RSA key of one of two sizes that has the length expected of it. -/
def RightlyGuessed (key : PrivateKey) (keyDer : Bytes) : Prop :=
  (∃ scalar, key = .ec prime256v1 scalar) ∨
    ∃ rsa, key = .rsa rsa ∧
      (rsa.modulus.size = 4096 ∧ 1000 < keyDer.length ∨
        rsa.modulus.size = 2048 ∧ keyDer.length ≤ 1000)

variable {crates : Crates} {parsers : DerParsers} {key : PrivateKey} {keyDer : Bytes}

theorem algorithmName_injective : Function.Injective algorithmName := by
  intro first second h
  have hparsed := parseAlgorithm_algorithmName first
  rw [h, parseAlgorithm_algorithmName] at hparsed
  exact (Outcome.ok.inj hparsed).symm

/-- The algorithm that an import determines from the object identifier and the length. -/
def guessed (keyDer : Bytes) : PrivateKey → KeyAlgorithm
  | .rsa _ => if 1000 < keyDer.length then .rsa4096 else .rsa2048
  | .ec _ _ => .ecP256

theorem detectKeyAlgorithm_of_pkcs8 (hparsers : ReadsPrivateKeys parsers keyDer)
    (hkey : key.Pkcs8 keyDer) : detectKeyAlgorithm parsers keyDer = .ok (guessed keyDer key) := by
  obtain ⟨info, halgorithm, -, hencoded⟩ := hkey
  have hread := (hparsers _).mpr ⟨info, hencoded, rfl⟩
  rw [detectKeyAlgorithm, hread, halgorithm, Outcome.ofExcept_ok, Outcome.mapErr_ok,
    Outcome.ok_bind]
  have hrsa : dotted rsaEncryption = "1.2.840.113549.1.1.1" := by decide +kernel
  have hec : dotted ecPublicKey = "1.2.840.10045.2.1" := by decide +kernel
  cases key with
  | rsa rsa =>
      rw [PrivateKey.algorithm, hrsa, algorithmOf, if_pos rfl]
      rfl
  | ec curve scalar =>
      rw [PrivateKey.algorithm, hec, algorithmOf, if_neg (by decide), if_pos rfl]
      rfl

theorem exists_signEcdsa_iff {data : Bytes} :
    (∃ signature, signEcdsa crates keyDer data = .ok signature) ↔
      ∃ scalar, crates.p256FromPkcs8Der keyDer = .ok scalar := by
  rw [signEcdsa]
  cases crates.p256FromPkcs8Der keyDer <;> simp

theorem exists_signRsa {rsa : RsaPrivateKey}
    (hreaders : KeyReaders crates parsers (.rsa rsa) keyDer) (hsize : 512 ≤ rsa.modulus.size)
    (data : Bytes) :
    ∃ signature, signRsa crates keyDer data = .ok signature := by
  obtain ⟨parsed, hparsed⟩ := hreaders.rsa.mpr ⟨rsa, rfl⟩
  obtain ⟨signature, hsigned⟩ := Option.ne_none_iff_exists'.mp
    (hreaders.signs rsa parsed data rfl hsize hparsed)
  exact ⟨signature, by rw [signRsa, hparsed, Outcome.ofExcept_ok, Outcome.mapErr_ok,
    Outcome.ok_bind, hsigned, Outcome.expect_some]⟩

def signAs (crates : Crates) (keyDer data : Bytes) : KeyAlgorithm → Outcome String Bytes
  | .ecP256 | .ecP384 => signEcdsa crates keyDer data
  | .rsa2048 | .rsa4096 => signRsa crates keyDer data

/-- A key is used as the algorithm recorded for it says. -/
theorem signData_of_getPlaintextKey {store : Store} {certId : String} {algorithm : KeyAlgorithm}
    (h : getPlaintextKey crates store certId = .ok (keyDer, algorithm)) (data : Bytes) :
    signData crates store certId data = signAs crates keyDer data algorithm := by
  rw [signData, h, Outcome.mapErr_ok, Outcome.ok_bind]
  cases algorithm <;> rfl

theorem signAs_guessed_rsa (rsa : RsaPrivateKey) (data : Bytes) :
    signAs crates keyDer data (guessed keyDer (.rsa rsa)) = signRsa crates keyDer data := by
  rw [guessed]
  split <;> rfl

theorem exists_signAs_guessed (hreaders : KeyReaders crates parsers key keyDer)
    (hright : RightlyGuessed key keyDer) (data : Bytes) :
    ∃ signature, signAs crates keyDer data (guessed keyDer key) = .ok signature := by
  rcases hright with ⟨scalar, rfl⟩ | ⟨rsa, rfl, hsizes⟩
  · exact exists_signEcdsa_iff.mpr (hreaders.p256.mpr ⟨scalar, rfl⟩)
  · rw [signAs_guessed_rsa]
    exact exists_signRsa hreaders (by omega) data

theorem kindName_eq_guessed_iff :
    kindName key = some (guessed keyDer key) ↔ RightlyGuessed key keyDer := by
  rw [RightlyGuessed]
  cases key with
  | rsa rsa =>
      simp only [reduceCtorEq, exists_false, false_or, PrivateKey.rsa.injEq, exists_eq_left']
      rw [kindName, guessed]
      grind
  | ec curve scalar =>
      simp only [reduceCtorEq, false_and, exists_false, or_false, PrivateKey.ec.injEq,
        exists_and_left, exists_eq', and_true]
      rw [kindName, guessed]
      grind

/-- An import that succeeds has stored a key that can be used as what it is exactly if the
guess at its kind was right. -/
theorem usable_iff_rightlyGuessed (hcrates : Deciphers crates)
    (hreaders : KeyReaders crates parsers key keyDer) (hkey : key.Pkcs8 keyDer) {host : Host}
    {drawn : KeyRandomness} {certDer master : Bytes} {label : String} {database after : Database}
    {result : ImportResult} (hsound : keys.Sound database)
    (h : storeCertAndKey host crates parsers drawn certDer keyDer label
      (.unlocked database master) = (.ok result, .unlocked after master)) :
    Usable crates key after master result.certId ↔ RightlyGuessed key keyDer := by
  obtain ⟨metadata, algorithm, encrypted, hprepared, hadmitted, rfl, hafter⟩ :=
    storeCertAndKey_eq_ok_iff.mp h
  obtain ⟨rfl, -⟩ := Store.unlocked.inj hafter
  obtain rfl := Outcome.ok.inj
    (hprepared.algorithm.symm.trans (detectKeyAlgorithm_of_pkcs8 hreaders.info hkey))
  have hplaintext := getPlaintextKey_withImport hcrates hsound hprepared hadmitted
  have hsigned := signData_of_getPlaintextKey hplaintext
  have hrow := (mem_keys_withImport_iff hsound hadmitted).mpr rfl
  constructor
  · intro husable
    obtain ⟨algorithm, hname, hrecorded⟩ := husable.named _ hrow.1 hrow.2
    obtain rfl : guessed keyDer key = algorithm := algorithmName_injective hrecorded
    exact kindName_eq_guessed_iff.mp hname
  · intro hright
    constructor
    · intro data
      rw [importResult, hsigned data]
      exact exists_signAs_guessed hreaders hright data
    · intro row hmem hcertId
      obtain rfl := (mem_keys_withImport_iff hsound hadmitted).mp ⟨hmem, hcertId⟩
      exact ⟨_, kindName_eq_guessed_iff.mpr hright, rfl⟩

section CurveKeys

open TrafficCone.CustodyRuns (deciphers_plainCrates hostAt officeRandomness)

def acceptInfo {α : Type} (admitted : AlgorithmIdentifier → Bool) (found : PrivateKeyInfo → α)
    (der : Bytes) : Except String α :=
  match readPrivateKeyInfo der with
  | none => .error "PKCS#8 ASN.1 error"
  | some info => if admitted info.algorithm then .ok (found info) else .error "PKCS#8 ASN.1 error"

/-- Parsers to run the model on, which read PKCS #8 and every certificate. -/
def pkcs8Parsers : DerParsers where
  certificateFromDer _ :=
    .ok { subject := "CN=office", issuer := "CN=ca", notBefore := 0, notAfter := 100 }
  privateKeyInfoFromDer := acceptInfo (fun _ => true) fun info => dotted info.algorithm.oid

def pkcs8Crates : Crates :=
  { plainCrates with
    p256FromPkcs8Der :=
      acceptInfo (fun algorithm => algorithm = (PrivateKey.ec prime256v1 []).algorithm)
        fun info => LengthFraming.fromBigEndian info.privateKey
    rsaFromPkcs8Der :=
      acceptInfo (fun algorithm => algorithm.oid = rsaEncryption)
        fun info => (LengthFraming.fromBigEndian info.privateKey, 0)
    rsaSignSha256 := fun _ data => some (fitted 256 data) }

theorem acceptInfo_eq_ok_iff {α : Type} {admitted : AlgorithmIdentifier → Bool}
    {found : PrivateKeyInfo → α} {der : Bytes} {value : α} :
    acceptInfo admitted found der = .ok value ↔
      ∃ info : PrivateKeyInfo,
        info.EncodedAs der ∧ admitted info.algorithm = true ∧ value = found info := by
  rw [acceptInfo]
  simp only [← readPrivateKeyInfo_eq_some_iff]
  cases readPrivateKeyInfo der with
  | none => simp
  | some info =>
      cases hadmitted : admitted info.algorithm with
      | false => simp [hadmitted]
      | true => simp [hadmitted, @eq_comm _ value]

/-- Whether a key is accepted depends on its algorithm only. -/
theorem exists_acceptInfo_iff {α : Type} {admitted : AlgorithmIdentifier → Bool}
    {found : PrivateKeyInfo → α} {key : PrivateKey} {der : Bytes} (hkey : key.Pkcs8 der) :
    (∃ value, acceptInfo admitted found der = .ok value) ↔ admitted key.algorithm = true := by
  obtain ⟨info, halgorithm, -, hencoded⟩ := hkey
  simp only [acceptInfo_eq_ok_iff, ← halgorithm]
  constructor
  · rintro ⟨value, other, hother, hadmitted, -⟩
    obtain rfl := hencoded.unique hother
    exact hadmitted
  · intro hadmitted
    exact ⟨_, info, hencoded, hadmitted, rfl⟩

theorem algorithm_eq_p256_iff {key : PrivateKey} :
    key.algorithm = (PrivateKey.ec prime256v1 []).algorithm ↔
      ∃ scalar, key = .ec prime256v1 scalar := by
  constructor
  · intro h
    cases key with
    | rsa rsa =>
        have hoid : rsaEncryption = ecPublicKey := congrArg AlgorithmIdentifier.oid h
        exact absurd hoid (by decide)
    | ec curve scalar =>
        exact ⟨scalar, by rw [PrivateKey.curve_eq_of_algorithm_eq (by decide +kernel) h]⟩
  · rintro ⟨scalar, rfl⟩
    rfl

theorem algorithm_oid_eq_rsaEncryption_iff {key : PrivateKey} :
    key.algorithm.oid = rsaEncryption ↔ ∃ rsa, key = .rsa rsa := by
  constructor
  · intro h
    cases key with
    | rsa rsa => exact ⟨rsa, rfl⟩
    | ec curve scalar =>
        have hoid : ecPublicKey = rsaEncryption := h
        exact absurd hoid (by decide)
  · rintro ⟨rsa, rfl⟩
    rfl

theorem readsPrivateKeys_pkcs8Parsers (der : Bytes) : ReadsPrivateKeys pkcs8Parsers der := by
  intro oid
  rw [pkcs8Parsers]
  simp only [acceptInfo_eq_ok_iff, true_and]

theorem keyReaders_pkcs8 (hkey : key.Pkcs8 keyDer) :
    KeyReaders pkcs8Crates pkcs8Parsers key keyDer where
  info := readsPrivateKeys_pkcs8Parsers keyDer
  p256 := by
    rw [← algorithm_eq_p256_iff, pkcs8Crates]
    simp only [exists_acceptInfo_iff hkey, decide_eq_true_iff]
  rsa := by
    rw [← algorithm_oid_eq_rsaEncryption_iff, pkcs8Crates]
    simp only [exists_acceptInfo_iff hkey, decide_eq_true_iff]
  signs := by
    intro rsa parsed data _ _ _
    exact Option.some_ne_none _

/-- A key on the curve, whose scalar has all its octets the same. -/
def curveKey (curve : Bytes) (octet : UInt8) : PrivateKey := .ec curve (List.replicate 32 octet)

def curveKeyDer (curve : Bytes) (octet : UInt8) : Bytes :=
  PrivateKeyInfo.encode (.alone (curveKey curve octet).algorithm (EcPrivateKey.encode
    { privateKey := List.replicate 32 octet, parameters := none, publicKey := none }))

theorem pkcs8_curveKeyDer {curve : Bytes} {octet : UInt8}
    (hlength : (curveKeyDer curve octet).length < lengthLimit) :
    (curveKey curve octet).Pkcs8 (curveKeyDer curve octet) :=
  ⟨_, rfl, ⟨_, rfl, rfl⟩, rfl, lt_trans (length_lt_length_element _ _) hlength⟩

def officeMeta : CertMeta where
  fingerprint := hashBytes pkcs8Crates [0x30, 1]
  subject := "CN=office"
  issuer := "CN=ca"
  notBefore := 0
  notAfter := 100

def afterCurveKey (curve : Bytes) (octet : UInt8) : Database :=
  withImport (hostAt 'm') [0x30, 1] "laptop" officeMeta .ecP256
    (curveKeyDer curve octet ++ List.replicate 16 0, List.replicate 32 7, List.replicate 12 9) {}

theorem usable_p256 :
    Usable pkcs8Crates (curveKey prime256v1 7) (afterCurveKey prime256v1 7) [1] "m" := by
  have hcrates : Deciphers pkcs8Crates := deciphers_plainCrates
  have hkey : (curveKey prime256v1 7).Pkcs8 (curveKeyDer prime256v1 7) :=
    pkcs8_curveKeyDer (by decide +kernel)
  have hrun : storeCertAndKey (hostAt 'm') pkcs8Crates pkcs8Parsers officeRandomness [0x30, 1]
      (curveKeyDer prime256v1 7) "laptop" (.unlocked {} [1]) =
        (.ok (importResult (hostAt 'm') "laptop" officeMeta .ecP256),
          .unlocked (afterCurveKey prime256v1 7) [1]) := by
    decide +kernel
  exact (usable_iff_rightlyGuessed hcrates (keyReaders_pkcs8 hkey) hkey wellFormed_empty.keys
    hrun).mpr
    (Or.inl ⟨_, rfl⟩)

/-- A key on P-384 is imported as one on P-256, and nothing can be signed with it. -/
theorem p384_imported_unusable :
    (curveKey secp384r1 7).Pkcs8 (curveKeyDer secp384r1 7) ∧
    storeCertAndKey (hostAt 'm') pkcs8Crates pkcs8Parsers officeRandomness [0x30, 1]
        (curveKeyDer secp384r1 7) "laptop" (.unlocked {} [1]) =
          (.ok (importResult (hostAt 'm') "laptop" officeMeta .ecP256),
            .unlocked (afterCurveKey secp384r1 7) [1]) ∧
    (afterCurveKey secp384r1 7).keys.map (fun row => (row.certId, row.algorithm)) =
      [("m", "EcP256")] ∧
    signData pkcs8Crates (.unlocked (afterCurveKey secp384r1 7) [1]) "m" [1, 2, 3] =
      .err "failed to parse EC key: PKCS#8 ASN.1 error" :=
  ⟨pkcs8_curveKeyDer (by decide +kernel), by decide +kernel, by decide +kernel,
    by decide +kernel⟩

end CurveKeys

end TrafficCone.ImportedKeyKinds
