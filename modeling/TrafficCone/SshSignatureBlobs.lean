import TrafficCone.DerEncoding
import TrafficCone.SshStrings

namespace TrafficCone.SshSignatureBlobs

open TrafficCone.Outcomes
open TrafficCone.StoreModels
open TrafficCone.StoreListing
open TrafficCone.LinkedCrates
open TrafficCone.LengthFraming
open TrafficCone.DerEncoding
open TrafficCone.SshAgentServing
open TrafficCone.SshKeySelection
open TrafficCone.SshStrings

section Encoding

/-- A number that is not negative, as a string of the protocol: no octets for zero, and no
more than the sign needs for any other. -/
def mpint (value : Nat) : Bytes :=
  writeString (if value = 0 then [] else integerContents value)

def p256Type : Bytes := asBytes "ecdsa-sha2-nistp256"

/-- What the protocol has for a signature of two numbers. -/
def sshSignature (signature : Nat × Nat) : Bytes :=
  writeString p256Type ++ writeString (mpint signature.1 ++ mpint signature.2)

def decodeNumbers (contents : Bytes) : Option (Nat × Nat) := do
  let (r, rest) ← takeFrame contents
  let (s, rest) ← takeFrame rest
  if rest = [] then some (LengthFraming.fromBigEndian r, LengthFraming.fromBigEndian s) else none

def decodeSignature (blob : Bytes) : Option (Bytes × Nat × Nat) := do
  let (sigType, rest) ← takeFrame blob
  let (contents, rest) ← takeFrame rest
  if rest = [] then (decodeNumbers contents).map fun numbers => (sigType, numbers) else none

/-- The blob is the one that the protocol has for the signature, and is read as it. -/
structure EncodesSignature (signature : Nat × Nat) (blob : Bytes) : Prop where
  encoded : blob = sshSignature signature
  decoded : decodeSignature blob = some (p256Type, signature)

theorem fromBigEndian_integerContents (value : Nat) :
    LengthFraming.fromBigEndian (integerContents value) = value := by
  rw [integerContents]
  split
  · exact fromBigEndian_bigEndian value
  · exact fromBigEndian_bigEndian value

theorem length_integerContents_le {value count : Nat} (h : value < 256 ^ count) :
    (integerContents value).length ≤ count + 1 := by
  have hdigits := length_bigEndian_le_iff.mpr h
  rw [integerContents]
  split
  · omega
  · rw [List.length_cons]
    omega

theorem takeFrame_mpint {value : Nat} (hvalue : value < 256 ^ 32) (rest : Bytes) :
    ∃ contents, takeFrame (mpint value ++ rest) = some (contents, rest) ∧
      LengthFraming.fromBigEndian contents = value := by
  refine ⟨if value = 0 then [] else integerContents value, takeFrame_frame ?_ rest, ?_⟩
  · split
    · decide
    · have hlength := length_integerContents_le hvalue
      exact lt_of_le_of_lt hlength (by decide)
  · split
    · rename_i hzero
      exact hzero.symm
    · exact fromBigEndian_integerContents value

theorem length_mpint_le {value : Nat} (hvalue : value < 256 ^ 32) : (mpint value).length ≤ 37 := by
  have hlength := length_integerContents_le hvalue
  rw [mpint, writeString, frame, List.length_append, toBigEndian_length]
  split
  · simp
  · omega

theorem decodeNumbers_mpint {r s : Nat} (hr : r < 256 ^ 32) (hs : s < 256 ^ 32) :
    decodeNumbers (mpint r ++ mpint s) = some (r, s) := by
  obtain ⟨first, hfirst, rfl⟩ := takeFrame_mpint hr (mpint s)
  obtain ⟨second, hsecond, rfl⟩ := takeFrame_mpint hs []
  rw [List.append_nil] at hsecond
  rw [decodeNumbers, hfirst]
  change (takeFrame _).bind _ = _
  rw [hsecond]
  rfl

theorem decodeSignature_writeString {contents : Bytes} (h : contents.length < UInt32.size) :
    decodeSignature (writeString p256Type ++ writeString contents) =
      (decodeNumbers contents).map fun numbers => (p256Type, numbers) := by
  have htype : p256Type.length < UInt32.size := by decide +kernel
  have hcontents := takeFrame_frame h []
  rw [List.append_nil] at hcontents
  rw [decodeSignature, writeString, takeFrame_frame htype]
  change (takeFrame (writeString contents)).bind _ = _
  rw [writeString, hcontents]
  rfl

/-- Every signature has its blob. -/
theorem encodesSignature_sshSignature {r s : Nat} (hr : r < 256 ^ 32) (hs : s < 256 ^ 32) :
    EncodesSignature (r, s) (sshSignature (r, s)) := by
  have hlength : (mpint r ++ mpint s).length < UInt32.size := by
    have hfirst := length_mpint_le hr
    have hsecond := length_mpint_le hs
    rw [List.length_append]
    exact lt_of_le_of_lt (Nat.add_le_add hfirst hsecond) (by decide)
  refine ⟨rfl, ?_⟩
  rw [sshSignature, decodeSignature_writeString hlength, decodeNumbers_mpint hr hs]
  rfl

example : mpint 0 = [0, 0, 0, 0] := by decide

example : mpint 0x80 = [0, 0, 0, 2, 0, 0x80] := by decide +kernel

end Encoding

section Der

/-- A stream that does not begin with a zero announces more than it holds. -/
theorem takeFrame_eq_none_of_large {first : UInt8} {rest : Bytes} (hfirst : first ≠ 0)
    (hlength : rest.length < 256 ^ 3) : takeFrame (first :: rest) = none := by
  rw [takeFrame]
  cases hread : readExact 4 (first :: rest) with
  | none => rfl
  | some found =>
      obtain ⟨length, after⟩ := found
      obtain ⟨hstream, hfour⟩ := readExact_eq_some_iff.mp hread
      cases length with
      | nil => cases hfour
      | cons head digits =>
          rw [List.cons_append, List.cons.injEq] at hstream
          obtain ⟨rfl, rfl⟩ := hstream
          have hdigits := toBigEndian_fromBigEndian hfour
          rw [toBigEndian, List.cons.injEq] at hdigits
          have hlarge : 256 ^ 3 ≤ LengthFraming.fromBigEndian (first :: digits) := by
            by_contra hsmall
            have hzero : LengthFraming.fromBigEndian (first :: digits) >>> 24 = 0 := by
              rw [Nat.shiftRight_eq_div_pow]
              exact Nat.div_eq_of_lt (not_le.mp hsmall)
            rw [hzero] at hdigits
            exact hfirst hdigits.1.symm
          change readExact _ after = none
          rw [readExact, if_neg]
          rw [List.length_append] at hlength
          omega

theorem length_element_of_short {tag : UInt8} {contents : Bytes} (h : contents.length < 128) :
    (element tag contents).length = contents.length + 2 := by
  rw [element, lengthOctets_of_lt h, List.length_cons, List.length_append, List.length_singleton]
  omega

theorem length_integer_le {value : Nat} (h : value < 256 ^ 32) : (integer value).length ≤ 35 := by
  have hcontents := length_integerContents_le h
  rw [integer, length_element_of_short (by omega)]
  omega

/-- What the linked crate promises of a signature: two numbers of 256 bits, and their
sequence as its encoding. -/
structure P256Laws (crates : Crates) : Prop where
  sign_lt : ∀ scalar data, (crates.p256Sign scalar data).1 < 256 ^ 32 ∧
    (crates.p256Sign scalar data).2 < 256 ^ 32
  to_der : ∀ r s, r < 256 ^ 32 → s < 256 ^ 32 →
    crates.p256SignatureToDer (r, s) = sequenceElement (integer r ++ integer s)

theorem decodeNumbers_der {r s : Nat} (hr : r < 256 ^ 32) (hs : s < 256 ^ 32) :
    decodeNumbers (sequenceElement (integer r ++ integer s)) = none := by
  have hfirst := length_integer_le hr
  have hsecond := length_integer_le hs
  have hshort : (integer r ++ integer s).length < 128 := by
    rw [List.length_append]
    omega
  have hnone : takeFrame (sequenceElement (integer r ++ integer s)) = none := by
    rw [sequenceElement, element]
    apply takeFrame_eq_none_of_large (by decide)
    rw [lengthOctets_of_lt hshort, List.singleton_append, List.length_cons]
    omega
  rw [decodeNumbers, hnone]
  rfl

end Der

section Answers

variable {crates : Crates} {key : SshKey} {plaintext data bytes : Bytes} {flags : Nat}

theorem signSelected_ecdsa (halgorithm : key.algorithm = .ecdsaP256)
    (hsigned : signSelected crates data flags (some (key, plaintext)) = .ok bytes) :
    ∃ scalar, crates.p256FromPkcs8Der plaintext = .ok scalar ∧
      bytes = signResponse :: writeString (writeString p256Type ++
        writeString (crates.p256SignatureToDer (crates.p256Sign scalar data))) := by
  obtain ⟨⟨sigType, signature⟩, hdata, hbytes⟩ := Outcome.bind_eq_ok_iff.mp hsigned
  rw [halgorithm, signSshData, signEcdsaP256] at hdata
  obtain ⟨scalar, hscalar, hdata⟩ := Outcome.bind_eq_ok_iff.mp hdata
  rw [Outcome.mapErr_eq_ok_iff, Outcome.ofExcept_eq_ok_iff] at hscalar
  obtain ⟨rfl, rfl⟩ := Prod.mk.inj (Outcome.ok.inj hdata)
  exact ⟨scalar, hscalar, (Outcome.ok.inj hbytes).symm⟩

/-- No signature with a P-256 key is answered with the blob that the protocol has for it,
and none can be read from the blob that is answered. -/
theorem p256_blob_is_not_ssh_encoding (laws : P256Laws crates)
    (halgorithm : key.algorithm = .ecdsaP256)
    (hsigned : signSelected crates data flags (some (key, plaintext)) = .ok bytes) :
    ∃ scalar blob, crates.p256FromPkcs8Der plaintext = .ok scalar ∧
      bytes = signResponse :: writeString blob ∧
      ¬ EncodesSignature (crates.p256Sign scalar data) blob ∧ decodeSignature blob = none := by
  obtain ⟨scalar, hscalar, rfl⟩ := signSelected_ecdsa halgorithm hsigned
  obtain ⟨hr, hs⟩ := laws.sign_lt scalar data
  have hnone : decodeSignature (writeString p256Type ++
      writeString (crates.p256SignatureToDer (crates.p256Sign scalar data))) = none := by
    have hder := laws.to_der _ _ hr hs
    have hlength : (sequenceElement (integer (crates.p256Sign scalar data).1 ++
        integer (crates.p256Sign scalar data).2)).length < UInt32.size := by
      have hfirst := length_integer_le hr
      have hsecond := length_integer_le hs
      rw [sequenceElement, length_element_of_short, List.length_append]
      · exact lt_of_le_of_lt (Nat.add_le_add_right (Nat.add_le_add hfirst hsecond) 2) (by decide)
      · rw [List.length_append]
        omega
    rw [Prod.mk.eta] at hder
    rw [hder, decodeSignature_writeString hlength, decodeNumbers_der hr hs]
    rfl
  refine ⟨scalar, _, hscalar, rfl, ?_, hnone⟩
  intro hencodes
  rw [hencodes.decoded] at hnone
  cases hnone

/-- Crates whose signatures are numbers of 256 bits in their encoding. -/
def derCrates : Crates :=
  { plainCrates with
    p256Sign := fun scalar data => (scalar % 256 ^ 32, data.length % 256 ^ 32)
    p256SignatureToDer := fun signature =>
      sequenceElement (integer signature.1 ++ integer signature.2) }

def p256Key : SshKey :=
  { id := "s1"
    label := "deploy"
    publicKey := "AAAA"
    algorithm := .ecdsaP256
    keyEnc := List.replicate 16 0
    keySalt := List.replicate 32 5
    keyNonce := List.replicate 12 6
    createdAt := 1 }

theorem derCrates_laws : P256Laws derCrates := by
  constructor
  · intro scalar data
    exact ⟨Nat.mod_lt _ (by positivity), Nat.mod_lt _ (by positivity)⟩
  · intro r s _ _
    rfl

/-- A key of the scalar 200 signs three bytes. -/
theorem p256_blob_is_not_ssh_encoding_at :
    ∃ scalar blob, derCrates.p256FromPkcs8Der [200] = .ok scalar ∧
      signSelected derCrates [1, 2, 3] 0 (some (p256Key, [200])) =
        .ok (signResponse :: writeString blob) ∧
      ¬ EncodesSignature (derCrates.p256Sign scalar [1, 2, 3]) blob ∧
        decodeSignature blob = none := by
  obtain ⟨bytes, hsigned⟩ : ∃ bytes,
      signSelected derCrates [1, 2, 3] 0 (some (p256Key, [200])) = .ok bytes := ⟨_, rfl⟩
  obtain ⟨scalar, blob, hscalar, rfl, hencodes, hnone⟩ :=
    p256_blob_is_not_ssh_encoding derCrates_laws rfl hsigned
  exact ⟨scalar, blob, hscalar, hsigned, hencodes, hnone⟩

/-- The answer to it has the sequence where the two numbers should be. -/
theorem p256_blob_counterexample :
    signSelected derCrates [1, 2, 3] 0 (some (p256Key, [200])) =
      .ok (signResponse :: writeString (writeString p256Type ++
        writeString [0x30, 7, 2, 2, 0, 200, 2, 1, 3])) ∧
    derCrates.p256Sign 200 [1, 2, 3] = (200, 3) ∧
    sshSignature (200, 3) =
      writeString p256Type ++ writeString [0, 0, 0, 2, 0, 200, 0, 0, 0, 1, 3] ∧
    ¬ EncodesSignature (200, 3)
      (writeString p256Type ++ writeString [0x30, 7, 2, 2, 0, 200, 2, 1, 3]) := by
  refine ⟨by decide +kernel, by decide +kernel, by decide +kernel, ?_⟩
  intro hencodes
  exact absurd hencodes.encoded (by decide +kernel)

end Answers

end TrafficCone.SshSignatureBlobs
