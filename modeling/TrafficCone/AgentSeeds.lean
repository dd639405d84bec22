import TrafficCone.PrivateKeyEncodings
import TrafficCone.SshAgentServing

namespace TrafficCone.AgentSeeds

open TrafficCone.Outcomes
open TrafficCone.StoreModels
open TrafficCone.LinkedCrates
open TrafficCone.DerEncoding
open TrafficCone.PrivateKeyEncodings
open TrafficCone.SshAgentServing

def ed25519 : AlgorithmIdentifier where
  oid := [0x2B, 0x65, 0x70]
  parameters := []

example : dotted ed25519.oid = "1.3.101.112" := by decide +kernel

/-- The key is the seed, in an octet string of its own. A public key that follows it is its
own, in a bit string without unused bits. -/
structure HoldsSeed (publicKeyOf : Bytes → Bytes) (seed : Bytes) (info : PrivateKeyInfo) :
    Prop where
  length : seed.length = 32
  publicKey_length : (publicKeyOf seed).length = 32
  algorithm : info.algorithm = ed25519
  privateKey : info.privateKey = element octetStringTag seed
  publicKey : ∀ octets, info.publicKey = some octets → octets = 0 :: publicKeyOf seed

/-- What is signed under a seed is verified under the public key that belongs to it. -/
def Verifies (crates : Crates) (publicKeyOf : Bytes → Bytes)
    (verify : Bytes → Bytes → Bytes → Bool) : Prop :=
  ∀ seed data, seed.length = 32 →
    verify (publicKeyOf seed) data (crates.ed25519Sign seed data) = true

/-- Whatever the crates are, the seed is the key that they are given, and what is signed
with it is verified. -/
structure SignsWithSeed (publicKeyOf : Bytes → Bytes) (verify : Bytes → Bytes → Bytes → Bool)
    (seed der : Bytes) : Prop where
  key : ∀ crates data,
    signEd25519 crates der data = .ok ("ssh-ed25519", crates.ed25519Sign seed data)
  verified : ∀ crates data, Verifies crates publicKeyOf verify →
    ∃ signature, signEd25519 crates der data = .ok ("ssh-ed25519", signature) ∧
      verify (publicKeyOf seed) data signature = true

/-- Nothing follows the seed, or a public key that is the seed, or attributes at the end of
which the seed stands again. -/
def SeedComesLast (publicKeyOf : Bytes → Bytes) (seed : Bytes) (info : PrivateKeyInfo) : Prop :=
  match info.publicKey, info.attributes with
  | some _, _ => publicKeyOf seed = seed
  | none, some attributes => seed <:+ seed ++ element attributesTag attributes
  | none, none => True

variable {publicKeyOf : Bytes → Bytes} {verify : Bytes → Bytes → Bytes → Bool} {seed der : Bytes}
  {info : PrivateKeyInfo}

theorem signEd25519_of_suffix (hlength : seed.length = 32) (h : seed <:+ der) (crates : Crates)
    (data : Bytes) :
    signEd25519 crates der data = .ok ("ssh-ed25519", crates.ed25519Sign seed data) := by
  have hlong : ¬ der.length < 32 := by
    have hle := h.length_le
    omega
  have hdrop : der.drop (der.length - 32) = seed := by
    rw [← hlength]
    exact (List.suffix_iff_eq_drop.mp h).symm
  rw [signEd25519, if_neg hlong, hdrop]

theorem suffix_of_signEd25519 (hlength : seed.length = 32)
    (h : ∀ crates data,
      signEd25519 crates der data = .ok ("ssh-ed25519", crates.ed25519Sign seed data)) :
    seed <:+ der := by
  -- A signature that is the key itself gives away which key was used.
  have hsigned := h { plainCrates with ed25519Sign := fun key _ => key } []
  rw [signEd25519] at hsigned
  split at hsigned
  · cases hsigned
  · obtain ⟨-, hdrop⟩ := Prod.mk.inj (Outcome.ok.inj hsigned)
    rw [List.suffix_iff_eq_drop, hlength]
    exact hdrop.symm

theorem signsWithSeed_iff_suffix (hlength : seed.length = 32) :
    SignsWithSeed publicKeyOf verify seed der ↔ seed <:+ der := by
  constructor
  · intro h
    exact suffix_of_signEd25519 hlength h.key
  · intro h
    constructor
    · exact signEd25519_of_suffix hlength h
    · intro crates data hverifies
      exact ⟨_, signEd25519_of_suffix hlength h crates data, hverifies seed data hlength⟩

theorem suffix_encode (hprivateKey : info.privateKey = element octetStringTag seed) :
    seed ++ info.trailer <:+ info.encode := by
  have hseed : seed <:+ element octetStringTag info.privateKey := by
    rw [hprivateKey]
    exact (suffix_element octetStringTag seed).trans (suffix_element octetStringTag _)
  have hcontents : seed ++ info.trailer <:+ info.contents := by
    rw [PrivateKeyInfo.contents]
    apply List.suffix_append_of_suffix
    apply List.suffix_append_of_suffix
    exact List.suffix_append_self_iff.mpr hseed
  exact hcontents.trans (suffix_element sequenceTag info.contents)

/-- The seed ends the encoding exactly if it ends itself with what follows it. -/
theorem suffix_encode_iff (hprivateKey : info.privateKey = element octetStringTag seed) :
    seed <:+ info.encode ↔ seed <:+ seed ++ info.trailer := by
  constructor
  · intro h
    apply List.suffix_of_suffix_length_le h (suffix_encode hprivateKey)
    simp
  · intro h
    exact h.trans (suffix_encode hprivateKey)

theorem publicKey_suffix_trailer (h : info.publicKey = some (0 :: publicKeyOf seed)) :
    publicKeyOf seed <:+ info.trailer := by
  rw [PrivateKeyInfo.trailer, h, optionalElement]
  apply List.suffix_append_of_suffix
  exact (List.suffix_cons 0 (publicKeyOf seed)).trans (suffix_element publicKeyTag _)

theorem suffix_trailer_iff (h : HoldsSeed publicKeyOf seed info) :
    seed <:+ seed ++ info.trailer ↔ SeedComesLast publicKeyOf seed info := by
  rw [SeedComesLast]
  cases hpublicKey : info.publicKey with
  | some octets =>
      obtain rfl := h.publicKey octets hpublicKey
      have hlast : publicKeyOf seed <:+ seed ++ info.trailer :=
        List.suffix_append_of_suffix (publicKey_suffix_trailer hpublicKey)
      constructor
      · intro hseed
        have hshorter := List.suffix_of_suffix_length_le hseed hlast
          (by rw [h.length, h.publicKey_length])
        exact (hshorter.eq_of_length (by rw [h.length, h.publicKey_length])).symm
      · intro hsame
        dsimp only at hsame
        rwa [hsame] at hlast
  | none =>
      cases hattributes : info.attributes with
      | some attributes => simp [PrivateKeyInfo.trailer, optionalElement, hpublicKey, hattributes]
      | none => simp [PrivateKeyInfo.trailer, optionalElement, hpublicKey, hattributes]

/-- The agent signs with the seed exactly if the seed comes last in the encoding. -/
theorem signsWithSeed_iff (hinfo : HoldsSeed publicKeyOf seed info) (hder : info.EncodedAs der) :
    SignsWithSeed publicKeyOf verify seed der ↔ SeedComesLast publicKeyOf seed info := by
  rw [signsWithSeed_iff_suffix hinfo.length, hder.1, suffix_encode_iff hinfo.privateKey,
    suffix_trailer_iff hinfo]

section Encodings

def exampleSeed : Bytes :=
  [0xD4, 0xEE, 0x72, 0xDB, 0xF9, 0x13, 0x58, 0x4A, 0xD5, 0xB6, 0xD8, 0xF1, 0xF7, 0x69, 0xF8, 0xAD,
    0x3A, 0xFE, 0x7C, 0x28, 0xCB, 0xF1, 0xD4, 0xFB, 0xE0, 0x97, 0xA8, 0x8F, 0x44, 0x75, 0x58, 0x42]

def examplePublicKey : Bytes :=
  [0x19, 0xBF, 0x44, 0x09, 0x69, 0x84, 0xCD, 0xFE, 0x85, 0x41, 0xBA, 0xC1, 0x67, 0xDC, 0x3B, 0x96,
    0xC8, 0x50, 0x86, 0xAA, 0x30, 0xB6, 0xB6, 0xCB, 0x0C, 0x5C, 0x38, 0xAD, 0x70, 0x31, 0x66, 0xE1]

def seedAlone : PrivateKeyInfo := .alone ed25519 (element octetStringTag exampleSeed)

def seedAndPublicKey : PrivateKeyInfo where
  version := .v2
  algorithm := ed25519
  privateKey := element octetStringTag exampleSeed
  attributes := none
  publicKey := some (0 :: examplePublicKey)
  publicKey_of_v1 := by decide

theorem signsWithSeed_seedAlone :
    SignsWithSeed (fun _ => examplePublicKey)
      (fun _ data signature => signature = plainCrates.ed25519Sign exampleSeed data) exampleSeed
      seedAlone.encode := by
  have hinfo : HoldsSeed (fun _ => examplePublicKey) exampleSeed seedAlone := by
    constructor <;> simp [seedAlone, PrivateKeyInfo.alone, exampleSeed, examplePublicKey]
  have hder : seedAlone.EncodedAs seedAlone.encode := ⟨rfl, by decide +kernel⟩
  exact (signsWithSeed_iff hinfo hder).mpr trivial

/-- With its public key behind it, it is the public key that is used as a seed. -/
theorem public_key_used_as_seed :
    HoldsSeed (fun _ => examplePublicKey) exampleSeed seedAndPublicKey ∧
    seedAndPublicKey.EncodedAs seedAndPublicKey.encode ∧
    signEd25519 plainCrates seedAndPublicKey.encode [1, 2, 3] =
      .ok ("ssh-ed25519", plainCrates.ed25519Sign examplePublicKey [1, 2, 3]) ∧
    plainCrates.ed25519Sign examplePublicKey [1, 2, 3] ≠
      plainCrates.ed25519Sign exampleSeed [1, 2, 3] := by
  refine ⟨?_, ⟨rfl, by decide +kernel⟩, by decide +kernel, by decide +kernel⟩
  constructor <;> simp [seedAndPublicKey, exampleSeed, examplePublicKey]

end Encodings

end TrafficCone.AgentSeeds
