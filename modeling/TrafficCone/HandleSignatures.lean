import TrafficCone.ClaimedPidInfluence
import TrafficCone.P11Messages
import TrafficCone.P11Module
import TrafficCone.TransducerRuns

namespace TrafficCone.HandleSignatures

open TrafficCone.Outcomes
open TrafficCone.StoreModels
open TrafficCone.StoreListing
open TrafficCone.LinkedCrates
open TrafficCone.ProcReaders
open TrafficCone.PidRouting
open TrafficCone.IpcServing (Shared dispatch answerSign signData answerSign_eq_ok_cases)
open TrafficCone.IpcMessages
open TrafficCone.P11Client
open TrafficCone.P11Messages
open TrafficCone.P11Module
open TrafficCone.TransducerRuns
open TrafficCone.ClaimedPidInfluence (twoAppsDatabase twoAppsSystem)

/-- The module, with the certificate that the handle of the last successful `C_SignInit`
denoted then. -/
structure Watched where
  state : ModuleState
  accepted : Option P11Cert
  deriving DecidableEq, Repr

def start : Watched := { state := loaded, accepted := none }

def watch (watched : Watched) (call : Call) : Watched :=
  { state := next watched.state call
    accepted :=
      match startedKey watched.state call with
      | some key => denoted watched.state key
      | none => watched.accepted }

/-- What the module receives: the daemon's response, read as the module's own type. An
error of the handler is sent as a response, too. -/
def overWire : Outcome String IpcServing.Response → Except P11Error Response
  | .ok response => (decodeResponse (encodeResponse response)).mapError fun _ => .protocol
  | .err message =>
      (decodeResponse (encodeResponse (.error message))).mapError fun _ => .protocol
  | .panicked => .error .unavailable

def served (crates : Crates) (system : System) (knownHashes : KnownHashes) (shared : Shared) :
    Coned := fun request =>
  overWire (dispatch crates system knownHashes (asIpcRequest request) shared).1

def listedRows (store : Store) : List Cert :=
  match listCerts store with
  | .ok rows => rows
  | _ => []

/-- The signature is the one that the key of this certificate makes. -/
def MadeWithKeyOf (crates : Crates) (store : Store) (cert : P11Cert) (data signature : Bytes) :
    Prop :=
  ∃ row ∈ listedRows store, row.certDer = cert.certDer ∧
    signData crates store row.id data = .ok signature

instance (crates : Crates) (store : Store) (cert : P11Cert) (data signature : Bytes) :
    Decidable (MadeWithKeyOf crates store cert data signature) :=
  inferInstanceAs (Decidable (∃ row ∈ listedRows store, _))

theorem storeSignature_some {arguments : SignArguments} {made signature : Bytes}
    (h : (storeSignature arguments made).signature = some signature) : made = signature := by
  rw [storeSignature] at h
  split at h
  · cases h
  · split at h
    · exact Option.some.inj h
    · cases h

theorem cSign_signature_cases {pid : Nat} {coned : Coned} {arguments : SignArguments}
    {state : ModuleState} {signature : Bytes}
    (h : (cSign pid coned arguments state).signature = some signature) :
    ∃ data, state.signHandle.isSome = true ∧ arguments.data = some data ∧
      ask coned (.sign pid data) = .ok (.signature signature) := by
  rw [cSign] at h
  cases hrequest : signRequest pid arguments state with
  | error value => simp [hrequest] at h
  | ok request =>
      obtain ⟨hpending, -, data, hdata, rfl⟩ := signRequest_eq_ok_iff.mp hrequest
      refine ⟨data, hpending, hdata, ?_⟩
      rw [hrequest] at h
      dsimp only at h
      split at h
      · rename_i made hasked
        rw [hasked, storeSignature_some h]
      · cases h

theorem ask_sign_eq_ok_iff {coned : Coned} {pid : Nat} {data signature : Bytes} :
    ask coned (.sign pid data) = .ok (.signature signature) ↔
      ∃ certId, coned (.sign pid data) = .ok (.signature certId signature) := by
  rw [ask]
  cases coned (.sign pid data) with
  | error error => simp [Outcome.ofExcept]
  | ok response => cases response <;> simp [Outcome.ofExcept, answerOf]

/-- The signature that the module reads is that of the routed certificate's key. -/
theorem served_sign_cases {crates : Crates} {system : System} {knownHashes : KnownHashes}
    {shared : Shared} {pid : Nat} {data signature : Bytes} {certId : String}
    (h : served crates system knownHashes shared (.sign pid data) =
      .ok (.signature certId signature)) :
    ∃ route,
      (resolveForPid crates system shared.store pid knownHashes shared.cache).1 = .ok route ∧
        signData crates shared.store route.certId data = .ok signature := by
  change overWire (answerSign crates system knownHashes pid data shared).1 = _ at h
  cases hanswer : (answerSign crates system knownHashes pid data shared).1 with
  | ok response =>
      rw [hanswer, overWire] at h
      rcases answerSign_eq_ok_cases hanswer with
        ⟨message, rfl⟩ | ⟨route, made, hroute, hmade, rfl⟩
      · rw [@decodeResponse_encodeResponse (.error message) trivial] at h
        cases h
      · rw [@decodeResponse_encodeResponse (.signature route.certId made) trivial] at h
        cases h
        exact ⟨route, hroute, hmade⟩
  | err message =>
      rw [hanswer, overWire, @decodeResponse_encodeResponse (.error message) trivial] at h
      cases h
  | panicked =>
      rw [hanswer] at h
      cases h

theorem madeWithKeyOf_of_row {crates : Crates} {store : Store} {cert : P11Cert}
    {data signature : Bytes} {certId : String}
    (hsigned : signData crates store certId data = .ok signature)
    (hrow : ∃ row ∈ listedRows store, row.id = certId ∧ row.certDer = cert.certDer) :
    MadeWithKeyOf crates store cert data signature := by
  obtain ⟨row, hmem, rfl, hder⟩ := hrow
  exact ⟨row, hmem, hder, hsigned⟩

/-- Which handle is pending makes no difference to `C_Sign`. -/
theorem cSign_of_pending (pid : Nat) (coned : Coned) (arguments : SignArguments)
    {state other : ModuleState} (hstate : state.signHandle.isSome = true)
    (hother : other.signHandle.isSome = true) :
    cSign pid coned arguments other = cSign pid coned arguments state := by
  have hnone : state.signHandle.isNone = false := by simpa using hstate
  have hnone' : other.signHandle.isNone = false := by simpa using hother
  have hsame : signRequest pid arguments other = signRequest pid arguments state := by
    rw [signRequest, signRequest, hnone, hnone']
  rw [cSign, cSign, hsame]

/-- After every run, a signature that `C_Sign` returns is one by the key of the certificate
that the daemon routes the process to. It is one by the key of the certificate that
`C_SignInit` accepted, if that is the certificate routed to; and any other handle would have
given the same signature. -/
theorem signature_by_routed_key {crates : Crates} {system : System} {knownHashes : KnownHashes}
    {shared : Shared} {pid : Nat} {arguments : SignArguments} {calls : List Call}
    {signature : Bytes}
    (h : (cSign pid (served crates system knownHashes shared) arguments
      (run (quietly watch) start calls).1.state).signature = some signature) :
    ∃ data route, arguments.data = some data ∧
      (resolveForPid crates system shared.store pid knownHashes shared.cache).1 = .ok route ∧
      signData crates shared.store route.certId data = .ok signature ∧
      (∀ cert, (run (quietly watch) start calls).1.accepted = some cert →
        (∃ row ∈ listedRows shared.store, row.id = route.certId ∧ row.certDer = cert.certDer) →
          MadeWithKeyOf crates shared.store cert data signature) ∧
      ∀ other : ModuleState, other.signHandle.isSome = true →
        (cSign pid (served crates system knownHashes shared) arguments other).signature =
          some signature := by
  obtain ⟨data, hpending, hdata, hasked⟩ := cSign_signature_cases h
  obtain ⟨certId, hserved⟩ := ask_sign_eq_ok_iff.mp hasked
  obtain ⟨route, hroute, hmade⟩ := served_sign_cases hserved
  refine ⟨data, route, hdata, hroute, hmade, ?_, ?_⟩
  · intro cert _ hrow
    exact madeWithKeyOf_of_row hmade hrow
  · intro other hother
    rw [cSign_of_pending pid _ arguments hpending hother]
    exact h

section TwoCertificates

/-- The daemon of two applications, of which process 7 is routed to the certificate `Work`. -/
def twoAppsShared : Shared :=
  { store := .unlocked twoAppsDatabase [], poisoned := false, cache := fun _ => none }

/-- `C_SignInit` with a handle of the first certificate (`Home`) or the second (`Work`). -/
def initializedFor (key : Nat) : List Call :=
  [.cInitialize (lists [homeCert, workCert]), .cSignInit 1 key]

def signOne : SignArguments :=
  { data := some [1], hasSignature := true, signatureLen := some 64 }

theorem signature_by_routed_key_of_work :
    ∃ data route, signOne.data = some data ∧
      (resolveForPid plainCrates twoAppsSystem twoAppsShared.store 7 (fun _ => none)
        twoAppsShared.cache).1 = .ok route ∧
      signData plainCrates twoAppsShared.store route.certId data =
        .ok [0x30, 6, 2, 1, 3, 2, 1, 1] ∧
      (∀ cert, (run (quietly watch) start (initializedFor 3)).1.accepted = some cert →
        (∃ row ∈ listedRows twoAppsShared.store,
          row.id = route.certId ∧ row.certDer = cert.certDer) →
          MadeWithKeyOf plainCrates twoAppsShared.store cert data [0x30, 6, 2, 1, 3, 2, 1, 1]) ∧
      ∀ other : ModuleState, other.signHandle.isSome = true →
        (cSign 7 (served plainCrates twoAppsSystem (fun _ => none) twoAppsShared) signOne
          other).signature = some [0x30, 6, 2, 1, 3, 2, 1, 1] :=
  signature_by_routed_key (by decide +kernel)

/-- `C_SignInit` accepts a handle of `Home`, and `C_Sign` returns a signature by the key of
`Work`. -/
theorem home_accepted_work_signs :
    ∃ cert signature,
      (run (quietly watch) start (initializedFor 1)).1.accepted = some cert ∧
      cSign 7 (served plainCrates twoAppsSystem (fun _ => none) twoAppsShared) signOne
          (run (quietly watch) start (initializedFor 1)).1.state =
        { value := .ok, signature := some signature, length := some 8 } ∧
      ¬ MadeWithKeyOf plainCrates twoAppsShared.store cert [1] signature := by
  refine ⟨listedCert 0 homeCert, [0x30, 6, 2, 1, 3, 2, 1, 1], ?_, ?_, ?_⟩ <;> decide +kernel

end TwoCertificates

end TrafficCone.HandleSignatures
