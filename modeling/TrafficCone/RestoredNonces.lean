import TrafficCone.KeyCustody
import TrafficCone.RestoredBlobs
import TrafficCone.SshAgentAnswers

namespace TrafficCone.RestoredNonces

open TrafficCone.Outcomes
open TrafficCone.StoreModels
open TrafficCone.StoreListing
open TrafficCone.LinkedCrates
open TrafficCone.ProcReaders
open TrafficCone.ProcessMonitoring
open TrafficCone.RouteResolution
open TrafficCone.PidRouting
open TrafficCone.LengthFraming
open TrafficCone.IpcServing
open TrafficCone.SshAgentServing
open TrafficCone.SshAgentAnswers
open TrafficCone.KeyCustody

def opened (database : Database) (master : Bytes) (cache : Cache) : Shared :=
  { store := .unlocked database master
    poisoned := false
    cache := cache }

/-- No row makes the cipher panic, so no sign request on either socket poisons the mutex:
not on the IPC socket, whatever the routes, once the process has been resolved, and not on
the socket of the agent. -/
structure SignsWithoutPanic (crates : Crates) (master : Bytes) (database : Database) : Prop where
  keys : ∀ row ∈ database.keys,
    decryptKey crates row.keyEnc row.keySalt row.keyNonce master ≠ .panicked
  sshKeys : ∀ row ∈ database.sshKeys,
    decryptKey crates row.keyEnc row.keySalt row.keyNonce master ≠ .panicked
  ipc : ∀ routes system knownHashes pid data cache,
    let shared := opened { database with routes := routes } master cache
    (resolveForPid crates system shared.store pid knownHashes cache).1 ≠ .panicked →
      (answerSign crates system knownHashes pid data shared).1 ≠ .panicked ∧
        (answerSign crates system knownHashes pid data shared).2.poisoned = false
  agent : ∀ payload cache,
    (handleSignRequest crates payload (opened database master cache)).1 ≠ .panicked ∧
      (handleSignRequest crates payload (opened database master cache)).2.poisoned = false

/-- A key found for the certificate is an RSA key with a modulus that is too short for a
signature. -/
def TooShortToSign (crates : Crates) (master : Bytes) (database : Database) (certId : String)
    (data : Bytes) : Prop :=
  ∃ keyDer algorithm key,
    getPlaintextKey crates (.unlocked database master) certId = .ok (keyDer, algorithm) ∧
      (algorithm = .rsa2048 ∨ algorithm = .rsa4096) ∧
      crates.rsaFromPkcs8Der keyDer = .ok key ∧ crates.rsaSignSha256 key data = none

/-- Every nonce is of the one length, unless no key can be derived from the salt beside it. -/
structure RowsUsable (crates : Crates) (master : Bytes) (database : Database) : Prop where
  keys : ∀ row ∈ database.keys, Usable crates master row.keySalt row.keyNonce
  sshKeys : ∀ row ∈ database.sshKeys, Usable crates master row.keySalt row.keyNonce
  rsa : ∀ certId data, ¬ TooShortToSign crates master database certId data

variable {crates : Crates} {master : Bytes} {database : Database} {certId : String}
  {keyDer data : Bytes}

section Signing

theorem parseAlgorithm_ne_panicked (text : String) : parseAlgorithm text ≠ .panicked := by
  rw [parseAlgorithm]
  grind

theorem getPlaintextKey_eq_panicked_iff :
    getPlaintextKey crates (.unlocked database master) certId = .panicked ↔
      ∃ row, (database.keys.find? fun row => row.certId = certId) = some row ∧
        ¬ Usable crates master row.keySalt row.keyNonce := by
  rw [getPlaintextKey, Store.conn_unlocked, Outcome.ok_bind]
  cases database.keys.find? fun row => row.certId = certId with
  | none => simp
  | some row =>
      simp only [Outcome.ofOption_some, Outcome.ok_bind, Store.passphrase_unlocked,
        Outcome.bind_eq_panicked_iff, decryptKey_eq_panicked_iff, parseAlgorithm_ne_panicked,
        Outcome.pure_eq_ok, reduceCtorEq, and_false, exists_false, or_false, Option.some.injEq,
        exists_eq_left']

theorem signEcdsa_ne_panicked : signEcdsa crates keyDer data ≠ .panicked := by
  rw [signEcdsa, ne_eq, Outcome.bind_eq_panicked_iff, Outcome.mapErr_eq_panicked_iff]
  cases crates.p256FromPkcs8Der keyDer <;> simp

theorem signRsa_eq_panicked_iff :
    signRsa crates keyDer data = .panicked ↔
      ∃ key, crates.rsaFromPkcs8Der keyDer = .ok key ∧ crates.rsaSignSha256 key data = none := by
  rw [signRsa]
  cases crates.rsaFromPkcs8Der keyDer with
  | error error => simp
  | ok key =>
      cases hsigned : crates.rsaSignSha256 key data with
      | none => simp [hsigned]
      | some signature => simp [hsigned]

/-- Signing panics in the cipher or, with an RSA key that is too short, in the signature. -/
theorem signData_eq_panicked_iff :
    signData crates (.unlocked database master) certId data = .panicked ↔
      (∃ row, (database.keys.find? fun row => row.certId = certId) = some row ∧
        ¬ Usable crates master row.keySalt row.keyNonce) ∨
      TooShortToSign crates master database certId data := by
  rw [signData, Outcome.bind_eq_panicked_iff, Outcome.mapErr_eq_panicked_iff,
    getPlaintextKey_eq_panicked_iff, TooShortToSign]
  apply or_congr_right
  simp only [Outcome.mapErr_eq_ok_iff, Prod.exists]
  apply exists_congr
  intro keyDer
  apply exists_congr
  intro algorithm
  cases algorithm <;> simp [signEcdsa_ne_panicked, signRsa_eq_panicked_iff]

theorem signData_ne_panicked (husable : RowsUsable crates master database)
    (certId : String) (data : Bytes) :
    signData crates (.unlocked database master) certId data ≠ .panicked := by
  rw [ne_eq, signData_eq_panicked_iff]
  rintro (⟨row, hrow, hnot⟩ | hshort)
  · exact hnot (husable.keys row (List.mem_of_find?_eq_some hrow))
  · exact husable.rsa certId data hshort

/-- Routes are not read when a key is fetched and used. -/
theorem signData_withRoutes (routes : List RouteRow) :
    signData crates (.unlocked { database with routes := routes } master) certId data =
      signData crates (.unlocked database master) certId data := rfl

end Signing

section Sockets

variable {system : System} {knownHashes : KnownHashes} {pid : Nat} {cache : Cache}

theorem answerWith_eq_panicked_iff {outcome : Outcome String Bytes} :
    answerWith certId outcome = .panicked ↔ outcome = .panicked := by
  cases outcome <;> simp [answerWith]

/-- The mutex is poisoned by a panic of its holder and by nothing else. -/
theorem withStore_snd_poisoned {α : Type} {handler : Effect Shared String α} {shared : Shared}
    (hkept : (handler shared).2.poisoned = false) (h : (withStore handler shared).1 ≠ .panicked) :
    (withStore handler shared).2.poisoned = false := by
  rw [withStore] at h ⊢
  split
  · rename_i hpoisoned
    exact absurd (if_pos hpoisoned ▸ rfl) h
  · rename_i hpoisoned
    rw [if_neg hpoisoned] at h
    rcases hcall : handler shared with ⟨value | error | _, after⟩
    · rw [hcall] at hkept
      exact hkept
    · rw [hcall] at hkept
      exact hkept
    · rw [hcall] at h
      exact absurd rfl h

theorem answerSign_eq_panicked_iff
    (hresolved : (resolveForPid crates system (.unlocked database master) pid knownHashes
      cache).1 ≠ .panicked) :
    (answerSign crates system knownHashes pid data (opened database master cache)).1 =
        .panicked ↔
      ∃ route, (resolveForPid crates system (.unlocked database master) pid knownHashes
          cache).1 = .ok route ∧
        signData crates (.unlocked database master) route.certId data = .panicked := by
  rw [answerSign_fst crates system knownHashes pid data rfl, opened]
  dsimp only
  cases hcall : (resolveForPid crates system (.unlocked database master) pid knownHashes
      cache).1 with
  | ok route => simp [answerWith_eq_panicked_iff]
  | err message => simp
  | panicked => exact absurd hcall hresolved

theorem answerSign_snd_poisoned
    (h : (answerSign crates system knownHashes pid data
      (opened database master cache)).1 ≠ .panicked) :
    (answerSign crates system knownHashes pid data
      (opened database master cache)).2.poisoned = false := by
  refine withStore_snd_poisoned ?_ h
  split <;> rfl

end Sockets

section OneRoute

/-- A route to the certificate for whatever asks. -/
def routeToAll (certId : String) : RouteRow where
  id := "r"
  certId := certId
  appId := none
  matchType := "hostname"
  pattern := none
  requireBoth := 0
  priority := 0
  createdAt := 0

def codeSystem : System := quietSystem [(7, "/usr/bin/code")] []

def codeProcess : ProcessEntry where
  pid := 7
  exePath := "/usr/bin/code"
  exeHash := ""
  startTime := 500

theorem resolveForPid_routeToAll (crates : Crates) (database : Database) (master : Bytes)
    (certId : String) :
    (resolveForPid crates codeSystem
        (.unlocked { database with routes := [routeToAll certId] } master) 7 (fun _ => none)
        fun _ => some codeProcess).1 =
      .ok { certId := certId, process := codeProcess, remoteHost := none, remoteIp := none } := by
  have hcached : fromCache codeSystem 7 (fun _ => some codeProcess) = some codeProcess := by
    decide +kernel
  have hconnections : getConnections codeSystem 7 = .ok [] := by decide +kernel
  have hrouted : firstRoute { database with routes := [routeToAll certId] } "/usr/bin/code" [] =
      some (certId, none) := by
    simp [firstRoute, queriedIps, routesOf, orderRoutes, selectRoute, considerRoute, readRoute,
      routeToAll, appMatches, hostMatches, isBetter]
  rw [resolveForPid_fst, resolve_of_cached hcached, Outcome.ok_bind, routeProcess_unlocked rfl,
    hconnections, Outcome.ok_bind, routedAnswer_eq_ok_iff]
  exact ⟨certId, none, hrouted, rfl⟩

theorem signData_ne_panicked_of_ipc (hsigns : SignsWithoutPanic crates master database)
    (certId : String) (data : Bytes) :
    signData crates (.unlocked database master) certId data ≠ .panicked := by
  have hrouted := resolveForPid_routeToAll crates database master certId
  have hresolved : (resolveForPid crates codeSystem
      (.unlocked { database with routes := [routeToAll certId] } master) 7 (fun _ => none)
      fun _ => some codeProcess).1 ≠ .panicked := by
    rw [hrouted]
    simp
  have hanswered := (hsigns.ipc [routeToAll certId] codeSystem (fun _ => none) 7 data
    (fun _ => some codeProcess) hresolved).1
  rw [ne_eq, answerSign_eq_panicked_iff hresolved] at hanswered
  intro hpanicked
  exact hanswered ⟨_, hrouted, (signData_withRoutes _).trans hpanicked⟩

end OneRoute

/-- The length of a nonce is nowhere checked, so neither socket panics exactly if the rows
have the right ones to begin with. -/
theorem signsWithoutPanic_iff (crates : Crates) (master : Bytes) (database : Database) :
    SignsWithoutPanic crates master database ↔ RowsUsable crates master database := by
  constructor
  · intro hsigns
    constructor
    · intro row hrow
      by_contra hnot
      exact hsigns.keys row hrow (decryptKey_eq_panicked_iff.mpr hnot)
    · intro row hrow
      by_contra hnot
      exact hsigns.sshKeys row hrow (decryptKey_eq_panicked_iff.mpr hnot)
    · intro certId data hshort
      exact signData_ne_panicked_of_ipc hsigns certId data
        (signData_eq_panicked_iff.mpr (Or.inr hshort))
  · intro husable
    constructor
    · intro row hrow hpanicked
      exact decryptKey_eq_panicked_iff.mp hpanicked (husable.keys row hrow)
    · intro row hrow hpanicked
      exact decryptKey_eq_panicked_iff.mp hpanicked (husable.sshKeys row hrow)
    · intro routes system knownHashes pid data cache shared hresolved
      have hanswered : (answerSign crates system knownHashes pid data shared).1 ≠ .panicked := by
        rw [ne_eq, answerSign_eq_panicked_iff hresolved]
        rintro ⟨route, -, hpanicked⟩
        exact signData_ne_panicked husable route.certId data hpanicked
      exact ⟨hanswered, answerSign_snd_poisoned hanswered⟩
    · intro payload cache
      have hanswered : (handleSignRequest crates payload (opened database master cache)).1 ≠
          .panicked := by
        rw [ne_eq, handleSignRequest_eq_panicked_iff]
        rintro ⟨keyBlob, found, flags, -, hpoisoned | hpanicked⟩
        · cases hpoisoned
        · obtain ⟨_, _, row, other, hstore, -, hother, hnot⟩ :=
            signWithKey_eq_panicked_iff.mp hpanicked
          obtain ⟨rfl, rfl⟩ := Store.unlocked.inj hstore
          exact hnot (husable.sshKeys other (List.mem_of_find?_eq_some hother))
      refine ⟨hanswered, ?_⟩
      rw [handleSignRequest_snd hanswered]
      rfl

section ShortNonce

open TrafficCone.BackupArchives
open TrafficCone.BackupRoundTrip (countingHost onePayload onePayload_reads)
open TrafficCone.RestoredTables (counters restoreBackup_of_restorePayload)

/-- A backup of one SSH key whose nonce has two bytes. -/
def shortNoncePayload : BackupPayload where
  version := 1
  exportedAt := 50
  certs := []
  sshKeys := [
    { id := "s1", label := "git", publicKey := "ssh-ed25519 AAAA", algorithm := "Ed25519"
      keyEnc := "0a0b", keySalt := "0102030405060708", keyNonce := "0405", createdAt := 6 }]
  caCerts := []
  apps := []
  routes := []
  sshRoutes := []

/-- The backup is restored without complaint, and the first request for the key poisons the
mutex. -/
theorem short_nonce_poisons_mutex :
    ∃ result restored,
      restoreBackup (onePayload shortNoncePayload) countingHost (asBytes "pwjson") "pw"
        (.unlocked {} [2]) = (.ok result, .unlocked restored [2]) ∧
      ¬ SignsWithoutPanic plainCrates [2] restored := by
  have hrestored : (restorePayload countingHost shortNoncePayload
      { database := {}, drawn := 0 }).1 = .ok (counters shortNoncePayload {}) := by
    decide +kernel
  have hrun := @restoreBackup_of_restorePayload _ _ _ _ _ _ [2] _ (onePayload_reads _) hrestored
  refine ⟨_, _, hrun, ?_⟩
  intro hsigns
  have hagent := (hsigns.agent (frame (asBytes "ssh-ed25519 AAAA") ++ frame [1] ++ [0, 0, 0, 0])
    fun _ => none).2
  revert hagent
  decide +kernel

end ShortNonce

end TrafficCone.RestoredNonces
