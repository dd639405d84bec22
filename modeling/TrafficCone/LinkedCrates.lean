import TrafficCone.StoreModels

namespace TrafficCone.LinkedCrates

open TrafficCone.Outcomes
open TrafficCone.StoreModels

/-- The functions the program takes from its cryptographic crates. A private
key that has been parsed is its scalar, or its modulus and exponent. -/
structure Crates where
  hashPasswordInto : Bytes → Bytes → Except String Bytes
  aesGcmEncrypt : Bytes → Bytes → Bytes → Except String Bytes
  aesGcmDecrypt : Bytes → Bytes → Bytes → Option Bytes
  sha256 : Bytes → Bytes
  p256FromPkcs8Der : Bytes → Except String Nat
  p256Sign : Nat → Bytes → Nat × Nat
  p256SignatureToDer : Nat × Nat → Bytes
  rsaFromPkcs8Der : Bytes → Except String (Nat × Nat)
  /-- PKCS#1 v1.5 signing; `none` where `sign` panics, for a modulus too short. -/
  rsaSignSha256 : Nat × Nat → Bytes → Option Bytes
  rsaSignSha512 : Nat × Nat → Bytes → Option Bytes
  ed25519Sign : Bytes → Bytes → Bytes

def nonceLen : Nat := 12

def deriveKey (crates : Crates) (passphrase salt : Bytes) : Outcome StoreError Bytes :=
  (Outcome.ofExcept (crates.hashPasswordInto passphrase salt)).mapErr .crypto

/-- `salt` and `nonce` are the bytes drawn from the system's generator. -/
def encryptKey (crates : Crates) (salt nonce keyBytes passphrase : Bytes) :
    Outcome StoreError (Bytes × Bytes × Bytes) := do
  let derived ← deriveKey crates passphrase salt
  let ciphertext ←
    (Outcome.ofExcept (crates.aesGcmEncrypt derived nonce keyBytes)).mapErr .crypto
  pure (ciphertext, salt, nonce)

def decryptKey (crates : Crates) (ciphertext salt nonceBytes passphrase : Bytes) :
    Outcome StoreError Bytes := do
  let derived ← deriveKey crates passphrase salt
  -- `Nonce::from_slice` panics on any other length.
  if nonceBytes.length = nonceLen then
    Outcome.ofOption .wrongPassphrase (crates.aesGcmDecrypt derived nonceBytes ciphertext)
  else
    .panicked

/-- The cipher can be given the nonce, or is not reached because no key can be derived from
the salt. -/
def Usable (crates : Crates) (master salt nonce : Bytes) : Prop :=
  nonce.length = nonceLen ∨ ∃ error, deriveKey crates master salt = .err error

theorem decryptKey_eq_panicked_iff {crates : Crates} {ciphertext salt nonce master : Bytes} :
    decryptKey crates ciphertext salt nonce master = .panicked ↔
      ¬ Usable crates master salt nonce := by
  rw [decryptKey, Usable, deriveKey]
  cases crates.hashPasswordInto master salt with
  | error error => simp
  | ok derived =>
      rw [Outcome.ofExcept_ok, Outcome.mapErr_ok, Outcome.ok_bind]
      split
      · rename_i hlength
        simp only [hlength, true_or, not_true_eq_false, iff_false]
        cases crates.aesGcmDecrypt derived nonce ciphertext <;> simp
      · rename_i hlength
        simp [hlength]

def fitted (length : Nat) (bytes : Bytes) : Bytes :=
  bytes.take length ++ List.replicate (length - bytes.length) 0

/-- Crates to run the model on. They keep the shapes of the real ones (a digest
of 32 bytes, a salt of at least 8, a tag of 16 bytes behind each ciphertext),
not their secrecy; a private key is its own first byte. -/
def plainCrates : Crates where
  hashPasswordInto passphrase salt :=
    if salt.length < 8 then .error "salt is too short" else .ok (fitted 32 (passphrase ++ salt))
  aesGcmEncrypt _ _ plaintext := .ok (plaintext ++ List.replicate 16 0)
  aesGcmDecrypt _ _ ciphertext :=
    if ciphertext.length < 16 then none else some (ciphertext.take (ciphertext.length - 16))
  sha256 := fitted 32
  p256FromPkcs8Der key :=
    match key with
    | [] => .error "PKCS#8 ASN.1 error"
    | scalar :: _ => .ok scalar.toNat
  p256Sign scalar data := (scalar, data.length)
  p256SignatureToDer signature :=
    [0x30, 6, 2, 1, UInt8.ofNat signature.1, 2, 1, UInt8.ofNat signature.2]
  rsaFromPkcs8Der _ := .error "PKCS#8 ASN.1 error"
  rsaSignSha256 _ _ := none
  rsaSignSha512 _ _ := none
  ed25519Sign key data := fitted 64 (key ++ data)

end TrafficCone.LinkedCrates
