import TrafficCone.IpcServing

namespace TrafficCone.SshAgentServing

open TrafficCone.Outcomes
open TrafficCone.StoreModels
open TrafficCone.StoreListing
open TrafficCone.LinkedCrates
open TrafficCone.LengthFraming
open TrafficCone.IpcServing

def requestIdentities : UInt8 := 11

def signRequest : UInt8 := 13

def agentFailure : UInt8 := 5

def identitiesAnswer : UInt8 := 12

def signResponse : UInt8 := 14

def rsaSha2512 : Nat := 4

def writeString (data : Bytes) : Bytes := frame data

def readU32 (cursor : Bytes) : Outcome String (Nat × Bytes) := do
  let (buf, rest) ← Outcome.ofOption "failed to fill whole buffer" (readExact 4 cursor)
  pure (LengthFraming.fromBigEndian buf, rest)

def readString (cursor : Bytes) : Outcome String (Bytes × Bytes) := do
  let (len, rest) ← readU32 cursor
  if 256 * 1024 < len then .err ("SSH string too large: " ++ toString len)
  else Outcome.ofOption "failed to fill whole buffer" (readExact len rest)

def signEd25519 (crates : Crates) (keyDer data : Bytes) : Outcome String (String × Bytes) :=
  if keyDer.length < 32 then .err "ed25519 key too short"
  else .ok ("ssh-ed25519", crates.ed25519Sign (keyDer.drop (keyDer.length - 32)) data)

def signEcdsaP256 (crates : Crates) (keyDer data : Bytes) : Outcome String (String × Bytes) := do
  let signingKey ← (Outcome.ofExcept (crates.p256FromPkcs8Der keyDer)).mapErr
    fun error => "failed to parse P-256 key: " ++ error
  pure ("ecdsa-sha2-nistp256", crates.p256SignatureToDer (crates.p256Sign signingKey data))

def signRsaSsh (crates : Crates) (keyDer data : Bytes) (useSha512 : Bool) :
    Outcome String (String × Bytes) := do
  let privateKey ← (Outcome.ofExcept (crates.rsaFromPkcs8Der keyDer)).mapErr
    fun error => "failed to parse RSA key: " ++ error
  if useSha512 then do
    let signature ← Outcome.expect (crates.rsaSignSha512 privateKey data)
    pure ("rsa-sha2-512", signature)
  else do
    let signature ← Outcome.expect (crates.rsaSignSha256 privateKey data)
    pure ("rsa-sha2-256", signature)

def signSshData (crates : Crates) (keyDer data : Bytes) (algorithm : SshAlgorithm)
    (flags : Nat) : Outcome String (String × Bytes) :=
  match algorithm with
  | .ed25519 => signEd25519 crates keyDer data
  | .ecdsaP256 => signEcdsaP256 crates keyDer data
  | .rsa4096 => signRsaSsh crates keyDer data (flags &&& rsaSha2512 ≠ 0)

/-- The answer that lists all public keys; no keys when they cannot be listed. -/
def identitiesMessage (store : Store) : Bytes :=
  let keys :=
    match listSshKeys store with
    | .ok keys => keys
    | _ => []
  identitiesAnswer :: toBigEndian keys.length ++
    keys.flatMap fun key => writeString (asBytes key.publicKey) ++ writeString (asBytes key.label)

def handleRequestIdentities : Effect Shared String Bytes :=
  withStore fun shared => (.ok (identitiesMessage shared.store), shared)

def signWithKey (crates : Crates) (store : Store) (keyBlob data : Bytes) (flags : Nat) :
    Outcome String Bytes := do
  let keys ← (listSshKeys store).mapErr StoreError.toText
  match keys.find? fun key => asBytes key.publicKey = keyBlob with
  | none => pure [agentFailure]
  | some key => do
      let plaintext ← (getSshPlaintextKey crates store key.label).mapErr
        fun error => "failed to retrieve SSH key: " ++ error.toText
      let (sigType, signature) ← signSshData crates plaintext data key.algorithm flags
      pure (signResponse :: writeString (writeString (asBytes sigType) ++ writeString signature))

def readSignRequest (payload : Bytes) : Outcome String (Bytes × Bytes × Nat) := do
  let (keyBlob, rest) ← readString payload
  let (data, rest) ← readString rest
  let (flags, _) ← readU32 rest
  pure (keyBlob, data, flags)

def handleSignRequest (crates : Crates) (payload : Bytes) : Effect Shared String Bytes := do
  let (keyBlob, data, flags) ← Effect.lift (readSignRequest payload)
  withStore fun shared => (signWithKey crates shared.store keyBlob data flags, shared)

inductive Incoming where
  | message (text rest : Bytes)
  | ended
  | blocked
  deriving DecidableEq, Repr

/-- The next message among the bytes that have arrived. A length that is not
allowed ends the connection, and so does its end. -/
def readMessage (unread : Bytes) (finished : Bool) : Incoming :=
  match readExact 4 unread with
  | none => if finished then .ended else .blocked
  | some (lenBuf, rest) =>
      let len := LengthFraming.fromBigEndian lenBuf
      if len = 0 ∨ 256 * 1024 < len then .ended
      else
        match readExact len rest with
        | none => if finished then .ended else .blocked
        | some (text, rest) => .message text rest

def orFailure : Outcome String Bytes → Outcome String Bytes
  | .ok bytes => .ok bytes
  | .err _ => .ok [agentFailure]
  | .panicked => .panicked

def respond (crates : Crates) (msgType : UInt8) (payload : Bytes) :
    Effect Shared String Bytes := fun shared =>
  let response : Outcome String Bytes × Shared :=
    if msgType = requestIdentities then handleRequestIdentities shared
    else if msgType = signRequest then handleSignRequest crates payload shared
    else (.ok [agentFailure], shared)
  (orFailure response.1, response.2)

/-- The agent holds the key a sign request asks for, and can use it. -/
def CanSign (crates : Crates) (store : Store) (payload : Bytes) : Prop :=
  ∃ keyBlob data flags keys key plaintext,
    readSignRequest payload = .ok (keyBlob, data, flags) ∧ listSshKeys store = .ok keys ∧
      (keys.find? fun key => asBytes key.publicKey = keyBlob) = some key ∧
        getSshPlaintextKey crates store key.label = .ok plaintext ∧ 32 ≤ plaintext.length

theorem listSshKeys_algorithm {store : Store} {keys : List SshKey}
    (h : listSshKeys store = .ok keys) {key : SshKey} (hkey : key ∈ keys) :
    key.algorithm = .ed25519 := by
  cases store with
  | locked => cases h
  | unlocked database master =>
      obtain rfl := Outcome.ok.inj h
      obtain ⟨row, -, rfl⟩ := List.mem_map.mp hkey
      rfl

theorem exists_signEd25519_iff {crates : Crates} {keyDer data : Bytes} :
    (∃ sigType signature, signEd25519 crates keyDer data = .ok (sigType, signature)) ↔
      32 ≤ keyDer.length := by
  unfold signEd25519
  split
  · rename_i hshort
    simp only [reduceCtorEq, exists_false, false_iff, not_le]
    exact hshort
  · rename_i hlong
    exact ⟨fun _ => not_lt.mp hlong, fun _ => ⟨_, _, rfl⟩⟩

theorem exists_signWithKey_iff {crates : Crates} {store : Store} {keyBlob data : Bytes}
    {flags : Nat} :
    (∃ rest, signWithKey crates store keyBlob data flags = .ok (signResponse :: rest)) ↔
      ∃ keys key plaintext, listSshKeys store = .ok keys ∧
        (keys.find? fun key => asBytes key.publicKey = keyBlob) = some key ∧
          getSshPlaintextKey crates store key.label = .ok plaintext ∧ 32 ≤ plaintext.length := by
  unfold signWithKey
  constructor
  · rintro ⟨rest, hsigned⟩
    obtain ⟨keys, hkeys, hfound⟩ := Outcome.bind_eq_ok_iff.mp hsigned
    rw [Outcome.mapErr_eq_ok_iff] at hkeys
    split at hfound
    · cases hfound
    · rename_i key hkey
      obtain ⟨plaintext, hplaintext, hrest⟩ := Outcome.bind_eq_ok_iff.mp hfound
      rw [Outcome.mapErr_eq_ok_iff] at hplaintext
      obtain ⟨⟨sigType, signature⟩, hdata, -⟩ := Outcome.bind_eq_ok_iff.mp hrest
      rw [listSshKeys_algorithm hkeys (List.mem_of_find?_eq_some hkey)] at hdata
      exact ⟨keys, key, plaintext, hkeys, hkey, hplaintext,
        exists_signEd25519_iff.mp ⟨sigType, signature, hdata⟩⟩
  · rintro ⟨keys, key, plaintext, hkeys, hkey, hplaintext, hlength⟩
    obtain ⟨sigType, signature, hdata⟩ :=
      (@exists_signEd25519_iff crates plaintext data).mpr hlength
    have halgorithm := listSshKeys_algorithm hkeys (List.mem_of_find?_eq_some hkey)
    refine ⟨writeString (writeString (asBytes sigType) ++ writeString signature), ?_⟩
    simp only [hkeys, Outcome.mapErr_ok, Outcome.ok_bind, hkey, hplaintext, halgorithm,
      signSshData, hdata]
    rfl

theorem orFailure_eq_signed_iff {outcome : Outcome String Bytes} {rest : Bytes} :
    orFailure outcome = .ok (signResponse :: rest) ↔ outcome = .ok (signResponse :: rest) := by
  cases outcome with
  | ok bytes => rfl
  | panicked => rfl
  | err error =>
      constructor
      · intro h
        cases h
      · intro h
        cases h

theorem handleSignRequest_eq_ok_iff {crates : Crates} {payload bytes : Bytes}
    {shared : Shared} :
    (handleSignRequest crates payload shared).1 = .ok bytes ↔
      shared.poisoned = false ∧ ∃ keyBlob data flags,
        readSignRequest payload = .ok (keyBlob, data, flags) ∧
          signWithKey crates shared.store keyBlob data flags = .ok bytes := by
  unfold handleSignRequest
  cases hread : readSignRequest payload with
  | err error => simp [Effect.bind_of_err (show Effect.lift _ shared = _ from rfl)]
  | panicked => simp [Effect.bind_of_panicked (show Effect.lift _ shared = _ from rfl)]
  | ok request =>
      obtain ⟨keyBlob, data, flags⟩ := request
      rw [Effect.bind_of_ok (show Effect.lift _ shared = _ from rfl), withStore_eq_ok_iff]
      simp

/-- A message is answered by a signature exactly when it is a sign request for a
key the agent holds. -/
theorem exists_respond_iff {crates : Crates} {msgType : UInt8} {payload : Bytes}
    {shared : Shared} :
    (∃ rest, (respond crates msgType payload shared).1 = .ok (signResponse :: rest)) ↔
      msgType = signRequest ∧ shared.poisoned = false ∧
        CanSign crates shared.store payload := by
  unfold respond
  simp only [orFailure_eq_signed_iff]
  by_cases hidentities : msgType = requestIdentities
  · subst hidentities
    have hother : requestIdentities ≠ signRequest := by decide
    simp only [if_true, handleRequestIdentities, hother, false_and, iff_false, not_exists]
    intro rest hanswer
    obtain ⟨-, hidentities⟩ := withStore_eq_ok_iff.mp hanswer
    cases hidentities
  · by_cases hsign : msgType = signRequest
    · subst hsign
      simp only [hidentities, if_false, if_true, handleSignRequest_eq_ok_iff, true_and]
      constructor
      · rintro ⟨rest, hpoisoned, keyBlob, data, flags, hread, hsigned⟩
        obtain ⟨keys, key, plaintext, hkeys, hkey, hplaintext, hlength⟩ :=
          exists_signWithKey_iff.mp ⟨rest, hsigned⟩
        exact ⟨hpoisoned, keyBlob, data, flags, keys, key, plaintext, hread, hkeys, hkey,
          hplaintext, hlength⟩
      · rintro ⟨hpoisoned, keyBlob, data, flags, keys, key, plaintext, hread, hkeys, hkey,
          hplaintext, hlength⟩
        obtain ⟨rest, hsigned⟩ :=
          (@exists_signWithKey_iff crates shared.store keyBlob data flags).mpr
            ⟨keys, key, plaintext, hkeys, hkey, hplaintext, hlength⟩
        exact ⟨rest, hpoisoned, keyBlob, data, flags, hread, hsigned⟩
    · simp [hidentities, hsign, agentFailure, signResponse]

end TrafficCone.SshAgentServing
