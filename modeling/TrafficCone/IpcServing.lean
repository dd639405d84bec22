import TrafficCone.LengthFraming
import TrafficCone.PidRouting

namespace TrafficCone.IpcServing

open TrafficCone.Outcomes
open TrafficCone.StoreModels
open TrafficCone.StoreListing
open TrafficCone.LinkedCrates
open TrafficCone.ProcReaders
open TrafficCone.ProcessMonitoring
open TrafficCone.PidRouting
open TrafficCone.LengthFraming

inductive Request where
  | ping
  | sign (pid : Nat) (data : Bytes)
  | listCerts
  | status
  | lock
  deriving DecidableEq, Repr

structure CertSummary where
  id : String
  label : String
  fingerprint : String
  subject : String
  notAfter : Int
  deriving DecidableEq, Repr

inductive Response where
  | pong
  | signature (certId : String) (signature : Bytes)
  | certs (certs : List CertSummary)
  | status (locked : Bool) (certCount : Nat)
  | ok
  | error (message : String)
  deriving DecidableEq, Repr

structure IpcCodec where
  decodeRequest : Bytes → Except String Request

/-- A codec, to run the model on, that reads just the listed texts. -/
def phrasebook (phrases : List (Bytes × Request)) : IpcCodec where
  decodeRequest text :=
    match phrases.lookup text with
    | some request => .ok request
    | none => .error "expected value at line 1 column 1"

/-- What the two servers share: the store behind its mutex, which a panic of its
holder poisons, and the cache of the process monitor. -/
structure Shared where
  store : Store
  poisoned : Bool
  cache : Cache

def withStore {α : Type} (handler : Effect Shared String α) : Effect Shared String α :=
  fun shared =>
    -- `lock().unwrap()` panics on a poisoned mutex.
    if shared.poisoned then (.panicked, shared)
    else
      match handler shared with
      | (.panicked, after) => (.panicked, { after with poisoned := true })
      | (.ok value, after) => (.ok value, after)
      | (.err error, after) => (.err error, after)

def signEcdsa (crates : Crates) (keyDer data : Bytes) : Outcome String Bytes := do
  let signingKey ← (Outcome.ofExcept (crates.p256FromPkcs8Der keyDer)).mapErr
    fun error => "failed to parse EC key: " ++ error
  pure (crates.p256SignatureToDer (crates.p256Sign signingKey data))

def signRsa (crates : Crates) (keyDer data : Bytes) : Outcome String Bytes := do
  let privateKey ← (Outcome.ofExcept (crates.rsaFromPkcs8Der keyDer)).mapErr
    fun error => "failed to parse RSA key: " ++ error
  Outcome.expect (crates.rsaSignSha256 privateKey data)

def signData (crates : Crates) (store : Store) (certId : String) (data : Bytes) :
    Outcome String Bytes := do
  let (keyBytes, algorithm) ← (getPlaintextKey crates store certId).mapErr
    fun error => "failed to retrieve key: " ++ error.toText
  match algorithm with
  | .ecP256 | .ecP384 => signEcdsa crates keyBytes data
  | .rsa2048 | .rsa4096 => signRsa crates keyBytes data

def summarize (cert : Cert) : CertSummary :=
  { id := cert.id
    label := cert.label
    fingerprint := cert.fingerprint
    subject := cert.subject
    notAfter := cert.notAfter }

def answerStatus : Effect Shared String Response :=
  withStore fun shared =>
    let locked := !shared.store.isUnlocked
    let certCount :=
      if locked then 0
      else
        match listCerts shared.store with
        | .ok certs => certs.length
        | _ => 0
    (.ok (.status locked certCount), shared)

def answerLock : Effect Shared String Response :=
  withStore fun shared => (.ok .ok, { shared with store := shared.store.lock })

def answerListCerts : Effect Shared String Response :=
  withStore fun shared =>
    match listCerts shared.store with
    | .ok certs => (.ok (.certs (certs.map summarize)), shared)
    | .err error => (.ok (.error error.toText), shared)
    | .panicked => (.panicked, shared)

def answerWith (certId : String) : Outcome String Bytes → Outcome String Response
  | .ok signature => .ok (.signature certId signature)
  | .err message => .ok (.error message)
  | .panicked => .panicked

def answerSign (crates : Crates) (system : System) (knownHashes : KnownHashes) (pid : Nat)
    (data : Bytes) : Effect Shared String Response :=
  withStore fun shared =>
    match resolveForPid crates system shared.store pid knownHashes shared.cache with
    | (.err message, cache) => (.ok (.error message), { shared with cache := cache })
    | (.panicked, cache) => (.panicked, { shared with cache := cache })
    | (.ok route, cache) =>
        (answerWith route.certId (signData crates shared.store route.certId data),
          { shared with cache := cache })

def dispatch (crates : Crates) (system : System) (knownHashes : KnownHashes) :
    Request → Effect Shared String Response
  | .ping => pure .pong
  | .status => answerStatus
  | .lock => answerLock
  | .listCerts => answerListCerts
  -- The PID that the client names, not the one the kernel reports.
  | .sign pid data => answerSign crates system knownHashes pid data

/-- Read a length-prefixed request from what the client sends before it closes. -/
def readRequest (codec : IpcCodec) (stream : Bytes) : Outcome String Request := do
  let (lenBytes, rest) ← Outcome.ofOption "failed to fill whole buffer" (readExact 4 stream)
  let len := LengthFraming.fromBigEndian lenBytes
  if 1024 * 1024 < len then
    .err ("Request too large: " ++ toString len ++ " bytes")
  else do
    let (buf, _) ← Outcome.ofOption "failed to fill whole buffer" (readExact len rest)
    (Outcome.ofExcept (codec.decodeRequest buf)).mapErr
      fun error => "failed to parse request: " ++ error

/-- Handle a single verified connection. The peer's PID is only logged. -/
def handleConnection (crates : Crates) (system : System) (codec : IpcCodec)
    (knownHashes : KnownHashes) (stream : Bytes) (_peerPid : Nat) :
    Effect Shared String Response := do
  let request ← Effect.lift (readRequest codec stream)
  dispatch crates system knownHashes request

theorem withStore_poisoned {α : Type} (handler : Effect Shared String α) {shared : Shared}
    (h : shared.poisoned = true) : withStore handler shared = (.panicked, shared) := by
  unfold withStore
  rw [if_pos h]

theorem withStore_fst {α : Type} (handler : Effect Shared String α) {shared : Shared}
    (h : shared.poisoned = false) : (withStore handler shared).1 = (handler shared).1 := by
  unfold withStore
  rw [if_neg (by simp [h])]
  rcases handler shared with ⟨_ | _ | _, after⟩ <;> rfl

theorem withStore_eq_ok_iff {α : Type} {handler : Effect Shared String α} {shared : Shared}
    {value : α} :
    (withStore handler shared).1 = .ok value ↔
      shared.poisoned = false ∧ (handler shared).1 = .ok value := by
  cases hpoisoned : shared.poisoned with
  | true => simp [withStore_poisoned handler hpoisoned]
  | false => simp [withStore_fst handler hpoisoned]

/-- Under the mutex a handler keeps what it keeps by itself, if poisoning does too. -/
theorem withStore_keeps {α : Type} {handler : Effect Shared String α} {invariant : Shared → Prop}
    {guarantee : α → Prop} (h : Effect.Keeps handler invariant guarantee)
    (hpoison : ∀ shared, invariant shared → invariant { shared with poisoned := true }) :
    Effect.Keeps (withStore handler) invariant guarantee := by
  intro shared hshared
  obtain ⟨hkept, hvalue⟩ := h shared hshared
  unfold withStore
  split
  · exact ⟨hshared, nofun⟩
  · rcases hcall : handler shared with ⟨value | error | _, after⟩
    · rw [hcall] at hkept hvalue
      exact ⟨hkept, hvalue⟩
    · rw [hcall] at hkept
      exact ⟨hkept, nofun⟩
    · rw [hcall] at hkept
      exact ⟨hpoison after hkept, nofun⟩

theorem answerSign_fst (crates : Crates) (system : System) (knownHashes : KnownHashes)
    (pid : Nat) (data : Bytes) {shared : Shared} (h : shared.poisoned = false) :
    (answerSign crates system knownHashes pid data shared).1 =
      match (resolveForPid crates system shared.store pid knownHashes shared.cache).1 with
      | .err message => .ok (.error message)
      | .panicked => .panicked
      | .ok route =>
          answerWith route.certId (signData crates shared.store route.certId data) := by
  unfold answerSign
  rw [withStore_fst _ h]
  rcases resolveForPid crates system shared.store pid knownHashes shared.cache with
    ⟨route | message | _, cache⟩ <;> rfl

/-- A request to sign is answered with an error, or with the signature that the key of the
routed certificate makes. -/
theorem answerSign_eq_ok_cases {crates : Crates} {system : System} {knownHashes : KnownHashes}
    {pid : Nat} {data : Bytes} {shared : Shared} {response : Response}
    (h : (answerSign crates system knownHashes pid data shared).1 = .ok response) :
    (∃ message, response = .error message) ∨
      ∃ route signature,
        (resolveForPid crates system shared.store pid knownHashes shared.cache).1 = .ok route ∧
          signData crates shared.store route.certId data = .ok signature ∧
            response = .signature route.certId signature := by
  have hpoisoned : shared.poisoned = false := by
    rw [answerSign] at h
    exact (withStore_eq_ok_iff.mp h).1
  rw [answerSign_fst crates system knownHashes pid data hpoisoned] at h
  rcases hroute : (resolveForPid crates system shared.store pid knownHashes shared.cache).1 with
    route | message | _
  · rw [hroute] at h
    dsimp only at h
    cases hsigned : signData crates shared.store route.certId data with
    | ok signature =>
        rw [hsigned] at h
        obtain rfl := Outcome.ok.inj h
        exact Or.inr ⟨route, signature, rfl, hsigned, rfl⟩
    | err message =>
        rw [hsigned] at h
        exact Or.inl ⟨message, (Outcome.ok.inj h).symm⟩
    | panicked =>
        rw [hsigned] at h
        cases h
  · rw [hroute] at h
    exact Or.inl ⟨message, (Outcome.ok.inj h).symm⟩
  · rw [hroute] at h
    cases h

theorem handleConnection_of_read {codec : IpcCodec} {stream : Bytes} {request : Request}
    (h : readRequest codec stream = .ok request) (crates : Crates) (system : System)
    (knownHashes : KnownHashes) (peerPid : Nat) :
    handleConnection crates system codec knownHashes stream peerPid =
      dispatch crates system knownHashes request := by
  funext shared
  unfold handleConnection
  exact Effect.bind_of_ok (by rw [Effect.lift, h])

end TrafficCone.IpcServing
