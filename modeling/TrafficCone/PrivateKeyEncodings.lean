import TrafficCone.DerEncoding

namespace TrafficCone.PrivateKeyEncodings

open TrafficCone.DerEncoding

/-- An algorithm: the octets of its object identifier, and its encoded parameters. -/
structure AlgorithmIdentifier where
  oid : List UInt8
  parameters : List UInt8
  deriving DecidableEq, Repr

def AlgorithmIdentifier.contents (algorithm : AlgorithmIdentifier) : List UInt8 :=
  element objectIdentifierTag algorithm.oid ++ algorithm.parameters

def AlgorithmIdentifier.encode (algorithm : AlgorithmIdentifier) : List UInt8 :=
  sequenceElement algorithm.contents

inductive Version where
  | v1
  | v2
  deriving DecidableEq, Repr

def Version.octet : Version → UInt8
  | .v1 => 0
  | .v2 => 1

/-- A private key with its algorithm, as PKCS #8 has it: attributes may follow it and, in the
second version, the public key. -/
structure PrivateKeyInfo where
  version : Version
  algorithm : AlgorithmIdentifier
  privateKey : List UInt8
  attributes : Option (List UInt8)
  publicKey : Option (List UInt8)
  publicKey_of_v1 : version = .v1 → publicKey = none
  deriving DecidableEq, Repr

def attributesTag : UInt8 := 0xA0

def publicKeyTag : UInt8 := 0x81

namespace PrivateKeyInfo

variable (info : PrivateKeyInfo)

def trailer : List UInt8 :=
  optionalElement attributesTag info.attributes ++ optionalElement publicKeyTag info.publicKey

def contents : List UInt8 :=
  element integerTag [info.version.octet] ++ (info.algorithm.encode ++
    (element octetStringTag info.privateKey ++ info.trailer))

def encode : List UInt8 := sequenceElement info.contents

/-- A key in the first version, with nothing behind it. -/
def alone (algorithm : AlgorithmIdentifier) (privateKey : List UInt8) : PrivateKeyInfo where
  version := .v1
  algorithm := algorithm
  privateKey := privateKey
  attributes := none
  publicKey := none
  publicKey_of_v1 _ := rfl

/-- The octets are the encoding, which is short enough to have one. -/
def EncodedAs (der : List UInt8) : Prop :=
  der = info.encode ∧ info.contents.length < lengthLimit

end PrivateKeyInfo

/-- The key of PKCS #1: two primes, and what is computed from them. Of more primes there are
more than one in the second version. -/
structure RsaPrivateKey where
  modulus : Nat
  publicExponent : Nat
  privateExponent : Nat
  prime1 : Nat
  prime2 : Nat
  exponent1 : Nat
  exponent2 : Nat
  coefficient : Nat
  otherPrimeInfos : Option (List UInt8)
  deriving DecidableEq, Repr

def RsaPrivateKey.contents (key : RsaPrivateKey) : List UInt8 :=
  integer (if key.otherPrimeInfos.isSome then 1 else 0) ++ (integer key.modulus ++
    (integer key.publicExponent ++ integer key.privateExponent ++ integer key.prime1 ++
      integer key.prime2 ++ integer key.exponent1 ++ integer key.exponent2 ++
      integer key.coefficient ++ optionalElement sequenceTag key.otherPrimeInfos))

def RsaPrivateKey.encode (key : RsaPrivateKey) : List UInt8 := sequenceElement key.contents

/-- The key of SEC 1: the scalar, and perhaps the curve and the public key. -/
structure EcPrivateKey where
  privateKey : List UInt8
  parameters : Option (List UInt8)
  publicKey : Option (List UInt8)
  deriving DecidableEq, Repr

def EcPrivateKey.contents (key : EcPrivateKey) : List UInt8 :=
  integer 1 ++ (element octetStringTag key.privateKey ++
    (optionalElement 0xA0 key.parameters ++ optionalElement 0xA1 key.publicKey))

def EcPrivateKey.encode (key : EcPrivateKey) : List UInt8 := sequenceElement key.contents

/-- A private key of PKCS #8 under a cipher. -/
structure EncryptedPrivateKeyInfo where
  algorithm : AlgorithmIdentifier
  encryptedData : List UInt8
  deriving DecidableEq, Repr

def EncryptedPrivateKeyInfo.contents (info : EncryptedPrivateKeyInfo) : List UInt8 :=
  info.algorithm.encode ++ element octetStringTag info.encryptedData

def EncryptedPrivateKeyInfo.encode (info : EncryptedPrivateKeyInfo) : List UInt8 :=
  sequenceElement info.contents

section Reading

def readVersion (octets : List UInt8) : Option Version :=
  if octets = [0] then some .v1 else if octets = [1] then some .v2 else none

def readAlgorithm (stream : List UInt8) : Option (AlgorithmIdentifier × List UInt8) := do
  let outer ← readElement sequenceTag stream
  let inner ← readElement objectIdentifierTag outer.1
  pure ({ oid := inner.1, parameters := inner.2 }, outer.2)

def readTrailer (stream : List UInt8) : Option (Option (List UInt8) × Option (List UInt8)) :=
  let attributes := readOptional attributesTag stream
  let publicKey := readOptional publicKeyTag attributes.2
  if publicKey.2 = [] then some (attributes.1, publicKey.1) else none

def readFields (stream : List UInt8) : Option PrivateKeyInfo := do
  let octets ← readElement integerTag stream
  let version ← readVersion octets.1
  let algorithm ← readAlgorithm octets.2
  let privateKey ← readElement octetStringTag algorithm.2
  let trailer ← readTrailer privateKey.2
  if hpublicKey : version = .v1 → trailer.2 = none then
    some
      { version := version
        algorithm := algorithm.1
        privateKey := privateKey.1
        attributes := trailer.1
        publicKey := trailer.2
        publicKey_of_v1 := hpublicKey }
  else none

def readPrivateKeyInfo (der : List UInt8) : Option PrivateKeyInfo := do
  let found ← readElement sequenceTag der
  if found.2 = [] then readFields found.1 else none

theorem readVersion_eq_some_iff {octets : List UInt8} {version : Version} :
    readVersion octets = some version ↔ octets = [version.octet] := by
  rw [readVersion]
  cases version <;> grind [Version.octet]

theorem of_readAlgorithm {stream rest : List UInt8} {algorithm : AlgorithmIdentifier}
    (h : readAlgorithm stream = some (algorithm, rest)) : stream = algorithm.encode ++ rest := by
  obtain ⟨outer, houter, hrest⟩ := Option.bind_eq_some_iff.mp h
  obtain ⟨inner, hinner, hfound⟩ := Option.bind_eq_some_iff.mp hrest
  obtain ⟨rfl, rfl⟩ := Prod.mk.inj (Option.some.inj hfound)
  rw [AlgorithmIdentifier.encode, AlgorithmIdentifier.contents,
    ← (readElement_eq_some_iff.mp hinner).1]
  exact (readElement_eq_some_iff.mp houter).1

theorem readAlgorithm_encode {algorithm : AlgorithmIdentifier}
    (h : algorithm.contents.length < lengthLimit) (rest : List UInt8) :
    readAlgorithm (algorithm.encode ++ rest) = some (algorithm, rest) := by
  have hoid : algorithm.oid.length < lengthLimit := by
    have hshorter := length_lt_length_element objectIdentifierTag algorithm.oid
    rw [AlgorithmIdentifier.contents, List.length_append] at h
    omega
  rw [readAlgorithm, AlgorithmIdentifier.encode, sequenceElement, readElement_element h]
  simp only [AlgorithmIdentifier.contents, Option.bind_eq_bind, Option.bind_some,
    readElement_element hoid, Option.pure_def]

theorem of_readTrailer {stream : List UInt8} {attributes publicKey : Option (List UInt8)}
    (h : readTrailer stream = some (attributes, publicKey)) :
    stream = optionalElement attributesTag attributes ++
      optionalElement publicKeyTag publicKey := by
  rw [readTrailer] at h
  rcases hattributes : readOptional attributesTag stream with ⟨first, rest⟩
  rcases hpublicKey : readOptional publicKeyTag rest with ⟨second, last⟩
  simp only [hattributes, hpublicKey] at h
  split at h
  · rename_i hlast
    obtain ⟨rfl, rfl⟩ := Prod.mk.inj (Option.some.inj h)
    rw [of_readOptional hattributes, of_readOptional hpublicKey, hlast, List.append_nil]
  · cases h

theorem readTrailer_encode {attributes publicKey : Option (List UInt8)}
    (hattributes : (optionalElement attributesTag attributes).length < lengthLimit)
    (hpublicKey : (optionalElement publicKeyTag publicKey).length < lengthLimit) :
    readTrailer (optionalElement attributesTag attributes ++
      optionalElement publicKeyTag publicKey) = some (attributes, publicKey) := by
  have hfirst : readOptional attributesTag (optionalElement attributesTag attributes ++
      optionalElement publicKeyTag publicKey) =
        (attributes, optionalElement publicKeyTag publicKey) := by
    apply readOptional_optionalElement
    · intro contents hfield
      exact lt_trans (length_lt_length_optionalElement hfield) hattributes
    · cases publicKey <;> rfl
  have hsecond : readOptional publicKeyTag (optionalElement publicKeyTag publicKey ++ []) =
      (publicKey, []) := by
    apply readOptional_optionalElement
    · intro contents hfield
      exact lt_trans (length_lt_length_optionalElement hfield) hpublicKey
    · rfl
  rw [List.append_nil] at hsecond
  simp only [readTrailer, hfirst, hsecond, if_true]

theorem of_readFields {contents : List UInt8} {info : PrivateKeyInfo}
    (h : readFields contents = some info) : contents = info.contents := by
  obtain ⟨octets, hoctets, hrest⟩ := Option.bind_eq_some_iff.mp h
  obtain ⟨version, hversion, hrest⟩ := Option.bind_eq_some_iff.mp hrest
  obtain ⟨algorithm, halgorithm, hrest⟩ := Option.bind_eq_some_iff.mp hrest
  obtain ⟨privateKey, hprivateKey, hrest⟩ := Option.bind_eq_some_iff.mp hrest
  obtain ⟨trailer, htrailer, hfound⟩ := Option.bind_eq_some_iff.mp hrest
  obtain ⟨hpublicKey, hfound⟩ := Option.dite_none_right_eq_some.mp hfound
  obtain rfl := Option.some.inj hfound
  rw [PrivateKeyInfo.contents, PrivateKeyInfo.trailer, ← of_readTrailer htrailer,
    ← (readElement_eq_some_iff.mp hprivateKey).1, ← of_readAlgorithm halgorithm,
    ← readVersion_eq_some_iff.mp hversion]
  exact (readElement_eq_some_iff.mp hoctets).1

theorem readFields_contents {info : PrivateKeyInfo}
    (h : info.contents.length < lengthLimit) : readFields info.contents = some info := by
  have hlengths : info.algorithm.contents.length < lengthLimit ∧
      info.privateKey.length < lengthLimit ∧
      (optionalElement attributesTag info.attributes).length < lengthLimit ∧
      (optionalElement publicKeyTag info.publicKey).length < lengthLimit := by
    have halgorithm := length_lt_length_element sequenceTag info.algorithm.contents
    have hprivateKey := length_lt_length_element octetStringTag info.privateKey
    simp only [PrivateKeyInfo.contents, PrivateKeyInfo.trailer, AlgorithmIdentifier.encode,
      sequenceElement, List.length_append] at h
    omega
  obtain ⟨halgorithm, hprivateKey, hattributes, hpublicKey⟩ := hlengths
  have hoctet : [info.version.octet].length < lengthLimit := by norm_num [lengthLimit]
  have hversion : readVersion [info.version.octet] = some info.version :=
    readVersion_eq_some_iff.mpr rfl
  simp only [readFields, PrivateKeyInfo.contents, PrivateKeyInfo.trailer,
    readElement_element hoctet, hversion, readAlgorithm_encode halgorithm,
    readElement_element hprivateKey, readTrailer_encode hattributes hpublicKey,
    Option.bind_eq_bind, Option.bind_some, dif_pos info.publicKey_of_v1]

/-- The reader accepts the encodings and nothing else. -/
theorem readPrivateKeyInfo_eq_some_iff {der : List UInt8} {info : PrivateKeyInfo} :
    readPrivateKeyInfo der = some info ↔ info.EncodedAs der := by
  constructor
  · intro h
    obtain ⟨found, hfound, hfields⟩ := Option.bind_eq_some_iff.mp h
    obtain ⟨hder, hlength⟩ := readElement_eq_some_iff.mp hfound
    split at hfields
    · rename_i hlast
      rw [hlast, List.append_nil] at hder
      rw [of_readFields hfields] at hder hlength
      exact ⟨hder, hlength⟩
    · cases hfields
  · rintro ⟨rfl, hlength⟩
    have hread := @readElement_element sequenceTag _ hlength []
    rw [List.append_nil] at hread
    simp only [readPrivateKeyInfo, PrivateKeyInfo.encode, sequenceElement, hread,
      Option.bind_eq_bind, Option.bind_some, if_true, readFields_contents hlength]

theorem PrivateKeyInfo.EncodedAs.unique {der : List UInt8} {info other : PrivateKeyInfo}
    (h : info.EncodedAs der) (hother : other.EncodedAs der) : info = other := by
  rw [← readPrivateKeyInfo_eq_some_iff] at h hother
  exact Option.some.inj (h.symm.trans hother)

end Reading

section Distinct

variable {info : PrivateKeyInfo} {octets contents rest : List UInt8} {tag : UInt8}

theorem contents_eq_of_encodedAs (h : info.EncodedAs (sequenceElement contents))
    (hlength : contents.length < lengthLimit) : contents = info.contents := by
  obtain ⟨hder, hinfo⟩ := h
  rw [PrivateKeyInfo.encode, sequenceElement, sequenceElement,
    ← List.append_nil (element _ contents), ← List.append_nil (element _ info.contents)] at hder
  exact (element_append_inj hlength hinfo hder).1

theorem not_encodedAs_of_first_tag (htag : tag ≠ integerTag)
    (hlength : (element tag contents ++ rest).length < lengthLimit) :
    ¬ info.EncodedAs (sequenceElement (element tag contents ++ rest)) := by
  intro h
  have hcontents := contents_eq_of_encodedAs h hlength
  exact htag (List.cons.inj hcontents).1

/-- Behind its version a private key has its algorithm, which is a sequence. -/
theorem not_encodedAs_of_second_tag (htag : tag ≠ sequenceTag)
    (hlength :
      (element integerTag octets ++ (element tag contents ++ rest)).length < lengthLimit) :
    ¬ info.EncodedAs
      (sequenceElement (element integerTag octets ++ (element tag contents ++ rest))) := by
  intro h
  have hcontents := contents_eq_of_encodedAs h hlength
  have hoctets : octets.length < lengthLimit := by
    have hshorter := length_lt_length_element integerTag octets
    rw [List.length_append] at hlength
    omega
  have hoctet : [info.version.octet].length < lengthLimit := by norm_num [lengthLimit]
  have hsecond := (element_append_inj hoctets hoctet hcontents).2
  exact htag (List.cons.inj hsecond).1

theorem RsaPrivateKey.not_encodedAs {key : RsaPrivateKey}
    (hlength : key.contents.length < lengthLimit) : ¬ info.EncodedAs key.encode :=
  not_encodedAs_of_second_tag (by decide) hlength

theorem EcPrivateKey.not_encodedAs {key : EcPrivateKey}
    (hlength : key.contents.length < lengthLimit) : ¬ info.EncodedAs key.encode :=
  not_encodedAs_of_second_tag (by decide) hlength

theorem EncryptedPrivateKeyInfo.not_encodedAs {encrypted : EncryptedPrivateKeyInfo}
    (hlength : encrypted.contents.length < lengthLimit) : ¬ info.EncodedAs encrypted.encode :=
  not_encodedAs_of_first_tag (by decide) hlength

end Distinct

section Keys

def rsaEncryption : List UInt8 := [0x2A, 0x86, 0x48, 0x86, 0xF7, 0x0D, 0x01, 0x01, 0x01]

def ecPublicKey : List UInt8 := [0x2A, 0x86, 0x48, 0xCE, 0x3D, 0x02, 0x01]

def prime256v1 : List UInt8 := [0x2A, 0x86, 0x48, 0xCE, 0x3D, 0x03, 0x01, 0x07]

def secp384r1 : List UInt8 := [0x2B, 0x81, 0x04, 0x00, 0x22]

example : dotted rsaEncryption = "1.2.840.113549.1.1.1" := by decide +kernel

/-- An RSA key, or the scalar of a key on a curve with a name. -/
inductive PrivateKey where
  | rsa (key : RsaPrivateKey)
  | ec (curve scalar : List UInt8)
  deriving DecidableEq, Repr

namespace PrivateKey

def algorithm : PrivateKey → AlgorithmIdentifier
  | .rsa _ => { oid := rsaEncryption, parameters := [0x05, 0x00] }
  | .ec curve _ => { oid := ecPublicKey, parameters := element objectIdentifierTag curve }

/-- The octets are the key in the format that its algorithm has for it. -/
def Bare : PrivateKey → List UInt8 → Prop
  | .rsa key, octets => octets = key.encode
  | .ec _ scalar, octets =>
      ∃ key : EcPrivateKey, key.privateKey = scalar ∧ octets = key.encode

/-- The octets are the key with its algorithm. -/
def Pkcs8 (key : PrivateKey) (der : List UInt8) : Prop :=
  ∃ info : PrivateKeyInfo,
    info.algorithm = key.algorithm ∧ key.Bare info.privateKey ∧ info.EncodedAs der

theorem curve_eq_of_algorithm_eq {curve other scalar scalar' : List UInt8}
    (hlength : (element objectIdentifierTag other).length < lengthLimit)
    (h : (PrivateKey.ec curve scalar).algorithm = (PrivateKey.ec other scalar').algorithm) :
    curve = other := by
  have hparameters : element objectIdentifierTag curve = element objectIdentifierTag other :=
    congrArg AlgorithmIdentifier.parameters h
  have hother := length_lt_length_element objectIdentifierTag other
  have hcurve := length_lt_length_element objectIdentifierTag curve
  rw [hparameters] at hcurve
  rw [← List.append_nil (element _ curve), ← List.append_nil (element _ other)] at hparameters
  exact (element_append_inj (lt_trans hcurve hlength) (lt_trans hother hlength) hparameters).1

end PrivateKey

end Keys

end TrafficCone.PrivateKeyEncodings
