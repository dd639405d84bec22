import TrafficCone.BackupRoundTrip
import TrafficCone.KeyCustody

namespace TrafficCone.CustodyRuns

open TrafficCone.Outcomes
open TrafficCone.StoreModels
open TrafficCone.LinkedCrates
open TrafficCone.TransducerRuns
open TrafficCone.StoreListing
open TrafficCone.DatabaseTables
open TrafficCone.BackupArchives
open TrafficCone.IntegrityChecks
open TrafficCone.CertificateImport
open TrafficCone.StoreCommands
open TrafficCone.KeyCustody
open TrafficCone.BackupRoundTrip

inductive Operation where
  | importCert (host : Host) (drawn : KeyRandomness) (certDer keyDer : Bytes) (label : String)
  | deleteCert (host : Host) (label : String)
  | restoreBackup (host : Host) (backupData : Bytes) (backupPassword : String)
  | appAdd (files : Files) (host : Host) (label exe : String)
  | routeAdd (host : Host) (request : RouteRequest)
  | routeRemove (id : String)

/-- A store, and the certificates imported into it and not deleted since. -/
structure History where
  store : Store
  imported : List Imported

variable (crates : Crates) (parsers : DerParsers) (codec : BackupCodec)

/-- Carry out one operation; an import returns the id of its certificate. -/
def perform : Operation → Effect Store String (Option String)
  | .importCert host drawn certDer keyDer label => do
      let result ← Effect.mapErr StoreError.toText
        (storeCertAndKey host crates parsers drawn certDer keyDer label)
      pure (some result.certId)
  | .deleteCert host label => do
      Effect.mapErr StoreError.toText (deleteCert host label)
      pure none
  | .restoreBackup host backupData backupPassword => do
      let _ ← Effect.mapErr StoreError.toText
        (restoreBackup codec host backupData backupPassword)
      pure none
  | .appAdd files host label exe => do
      let _ ← Effect.mapErr CommandError.message (appAdd crates files host label exe)
      pure none
  | .routeAdd host request => do
      let _ ← Effect.mapErr CommandError.message (routeAdd host request)
      pure none
  | .routeRemove id => do
      let _ ← Effect.mapErr CommandError.message (routeRemove id)
      pure none

/-- What is to be accounted for after an operation: an import adds its certificate with the
key it was given, a deletion takes out the certificate that it finds. -/
def accountedFor (history : History) :
    Operation → Outcome String (Option String) → List Imported
  | .importCert _ _ _ keyDer _, .ok (some certId) =>
      match detectKeyAlgorithm parsers keyDer with
      | .ok algorithm =>
          { certId := certId, keyDer := keyDer, algorithm := algorithm } :: history.imported
      | _ => history.imported
  | .deleteCert _ label, .ok _ =>
      match getCertByLabel history.store label with
      | .ok cert => history.imported.filter fun entry => entry.certId ≠ cert.id
      | _ => history.imported
  | _, _ => history.imported

def History.next (history : History) (operation : Operation) : History :=
  let result := perform crates parsers codec operation history.store
  { store := result.2
    imported := accountedFor parsers history operation result.1 }

def succeeds (history : History) (operation : Operation) : Bool :=
  match (perform crates parsers codec operation history.store).1 with
  | .ok _ => true
  | _ => false

def InCustody (master : Bytes) (history : History) : Prop :=
  ∃ database, history.store = .unlocked database master ∧
    Custody crates master history.imported database

section Steps

variable {crates parsers codec} {master : Bytes} {history : History}

theorem exists_perform_of_succeeds {operation : Operation}
    (h : succeeds crates parsers codec history operation = true) :
    ∃ result store, perform crates parsers codec operation history.store = (.ok result, store) := by
  rw [succeeds] at h
  split at h
  · rename_i result hresult
    exact ⟨result, _, Effect.eq_of_fst hresult⟩
  · cases h

/-- A command that hands on the result of a call of the store has been through that call. -/
theorem of_command {ε α : Type} {shown : ε → String} {call : Effect Store ε α}
    {returned : α → Option String} {store store' : Store} {result : Option String}
    (h : (Effect.mapErr shown call >>= fun value => pure (returned value)) store =
      (.ok result, store')) :
    ∃ value, call store = (.ok value, store') ∧ result = returned value := by
  obtain ⟨value, middle, hcall, hrest⟩ := Effect.bind_eq_ok_iff.mp h
  obtain ⟨hresult, rfl⟩ := Prod.mk.inj hrest
  exact ⟨value, Effect.mapErr_eq_ok_iff.mp hcall, (Outcome.ok.inj hresult).symm⟩

theorem inCustody_next (hcrates : Deciphers crates) {operation : Operation}
    (hhistory : InCustody crates master history)
    (hsucceeds : succeeds crates parsers codec history operation = true) :
    InCustody crates master (history.next crates parsers codec operation) := by
  obtain ⟨database, hstore, hcustody⟩ := hhistory
  obtain ⟨result, store, hperform⟩ := exists_perform_of_succeeds hsucceeds
  have hkept : Kept crates master history.imported { database := database, drawn := 0 } :=
    hcustody
  rw [History.next, hperform]
  rw [hstore] at hperform
  cases operation with
  | importCert host drawn certDer keyDer label =>
      obtain ⟨imported, hcall, rfl⟩ := of_command hperform
      obtain ⟨metadata, algorithm, encrypted, session, halgorithm, hencrypted, hsession, hfinal⟩ :=
        of_storeCertAndKey hcall
      refine ⟨session.database, hfinal, ?_⟩
      simp only [accountedFor, halgorithm]
      exact of_insertImported hcrates hencrypted hkept hsession
  | deleteCert host label =>
      obtain ⟨_, hcall, rfl⟩ := of_command hperform
      obtain ⟨cert, session, hcert, hsession, hfinal⟩ := of_deleteCert hcall
      refine ⟨session.database, hfinal, ?_⟩
      simp only [accountedFor, hstore, hcert]
      exact of_deleteRecorded hkept hsession
  | restoreBackup host backupData backupPassword =>
      obtain ⟨restored, hcall, rfl⟩ := of_command hperform
      obtain ⟨payload, session, hsession, hfinal⟩ := of_restoreBackup hcall
      exact ⟨session.database, hfinal,
        preserves_restorePayload host payload _ restored session hkept hsession⟩
  | appAdd files host label exe =>
      obtain ⟨lines, hcall, rfl⟩ := of_command hperform
      obtain ⟨hash, session, -, hsession, hfinal⟩ := of_appAdd hcall
      exact ⟨session.database, hfinal,
        preserves_insertApp host label exe hash _ _ session hkept hsession⟩
  | routeAdd host request =>
      obtain ⟨lines, hcall, rfl⟩ := of_command hperform
      obtain ⟨cert, appId, id, session, -, -, hsession, hfinal⟩ := of_routeAdd hcall
      exact ⟨session.database, hfinal,
        preserves_insertRoute host cert.id appId request _ id session hkept hsession⟩
  | routeRemove id =>
      obtain ⟨lines, hcall, rfl⟩ := of_command hperform
      obtain ⟨session, hsession, hfinal⟩ := of_routeRemove hcall
      exact ⟨session.database, hfinal,
        preserves_deleteFromRoutes id _ _ session hkept hsession⟩

end Steps

def emptyHistory (master : Bytes) : History :=
  { store := .unlocked {} master
    imported := [] }

theorem inCustody_emptyHistory (master : Bytes) :
    InCustody crates master (emptyHistory master) := by
  refine ⟨{}, rfl, ?_⟩
  constructor
  · simp [OneKeyEach]
  · simp
  · simp [emptyHistory]

variable {crates parsers codec}

/-- After every run of operations that succeed, certificates and keys belong together one
to one, and every certificate imported and not deleted since gives the key it came with. -/
theorem oneKeyEach_run_and_getPlaintextKey (hcrates : Deciphers crates) {master : Bytes}
    {operations : List Operation}
    (hsucceed : Along (quietly (History.next crates parsers codec))
      (fun history operation => succeeds crates parsers codec history operation = true)
      (emptyHistory master) operations) :
    ∃ database,
      (run (quietly (History.next crates parsers codec)) (emptyHistory master)
        operations).1.store = .unlocked database master ∧
      OneKeyEach database ∧
      (∀ key ∈ database.keys, ∃ cert ∈ database.certs, cert.id = key.certId) ∧
      ∀ entry ∈ (run (quietly (History.next crates parsers codec)) (emptyHistory master)
          operations).1.imported,
        getPlaintextKey crates (.unlocked database master) entry.certId =
          .ok (entry.keyDer, entry.algorithm) := by
  obtain ⟨database, hstore, hcustody⟩ := quiet_run_of_along
    (fun history operation hhistory hsucceeds => inCustody_next hcrates hhistory hsucceeds)
    (inCustody_emptyHistory crates master) hsucceed
  exact ⟨database, hstore, hcustody.oneKeyEach, hcustody.owned, hcustody.held⟩

section OfficeRun

theorem deciphers_plainCrates : Deciphers plainCrates := by
  intro key nonce plaintext ciphertext h
  have hciphertext : plaintext ++ List.replicate 16 0 = ciphertext := by
    simpa [plainCrates] using h
  rw [← hciphertext]
  simp [plainCrates]

/-- Parsers to run the model on: every key is an elliptic curve key. -/
def lenientParsers : DerParsers where
  certificateFromDer _ :=
    .ok { subject := "CN=office", issuer := "CN=ca", notBefore := 0, notAfter := 100 }
  privateKeyInfoFromDer _ := .ok "1.2.840.10045.2.1"

def officeRandomness : KeyRandomness where
  salt := List.replicate 32 7
  nonce := List.replicate 12 9
  salt_length := rfl
  nonce_length := rfl

def hostAt (name : Char) : Host where
  unixNow := 50
  newId index := String.ofList (List.replicate (index + 1) name)

def curlRequest : RouteRequest where
  cert := "laptop"
  app := some "curl"
  host := some "vpn.example"
  ip := none
  requireBoth := true
  priority := 5

def officeRun : List Operation :=
  [.importCert (hostAt 'm') officeRandomness [0x30, 1] [1, 2] "laptop",
    .appAdd (fun _ => .ok [5]) (hostAt 'n') "curl" "/opt/curl",
    .routeAdd (hostAt 'o') curlRequest,
    .restoreBackup (hostAt 'p') (asBytes "pwjson") "pw",
    .importCert (hostAt 'q') officeRandomness [0x30, 2] [3, 4] "phone",
    .routeRemove "O",
    .deleteCert (hostAt 'r') "laptop"]

theorem getPlaintextKey_officeRun :
    ∃ database,
      (run (quietly (History.next plainCrates lenientParsers
        (onePayload officePayload))) (emptyHistory [1]) officeRun).1.store =
          .unlocked database [1] ∧
      OneKeyEach database ∧
      (∀ key ∈ database.keys, ∃ cert ∈ database.certs, cert.id = key.certId) ∧
      ∀ entry ∈ (run (quietly (History.next plainCrates lenientParsers
          (onePayload officePayload))) (emptyHistory [1]) officeRun).1.imported,
        getPlaintextKey plainCrates (.unlocked database [1]) entry.certId =
          .ok (entry.keyDer, entry.algorithm) :=
  oneKeyEach_run_and_getPlaintextKey deciphers_plainCrates (by decide +kernel)

example : (run (quietly (History.next plainCrates lenientParsers
    (onePayload officePayload))) (emptyHistory [1]) officeRun).1.imported =
      [{ certId := "q", keyDer := [3, 4], algorithm := .ecP256 }] := by
  decide +kernel

end OfficeRun

end TrafficCone.CustodyRuns
