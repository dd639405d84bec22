import TrafficCone.StoreCommands
import TrafficCone.TransducerRuns

namespace TrafficCone.KeyCustody

open TrafficCone.Outcomes
open TrafficCone.StoreModels
open TrafficCone.LinkedCrates
open TrafficCone.TransducerRuns
open TrafficCone.StoreListing
open TrafficCone.IndependentLoading
open TrafficCone.DatabaseTables
open TrafficCone.BackupArchives
open TrafficCone.IntegrityChecks
open TrafficCone.CertificateImport
open TrafficCone.StoreCommands

/-- A certificate that has been imported: the key it came with and the algorithm that was
determined then. -/
structure Imported where
  certId : String
  keyDer : Bytes
  algorithm : KeyAlgorithm
  deriving DecidableEq, Repr

/-- Decryption with the same key and nonce undoes encryption. -/
def Deciphers (crates : Crates) : Prop :=
  ∀ key nonce plaintext ciphertext,
    crates.aesGcmEncrypt key nonce plaintext = .ok ciphertext →
      crates.aesGcmDecrypt key nonce ciphertext = some plaintext

/-- Certificates and keys belong together one to one, and every imported key is in the
store as it came. -/
structure Custody (crates : Crates) (master : Bytes) (imported : List Imported)
    (database : Database) : Prop where
  oneKeyEach : OneKeyEach database
  owned : ∀ key ∈ database.keys, ∃ cert ∈ database.certs, cert.id = key.certId
  held : ∀ entry ∈ imported,
    getPlaintextKey crates (.unlocked database master) entry.certId =
      .ok (entry.keyDer, entry.algorithm)

section Rows

variable {crates : Crates} {master : Bytes} {imported : List Imported} {database : Database}

theorem getPlaintextKey_eq_ok_iff {certId : String} {keyDer : Bytes} {algorithm : KeyAlgorithm} :
    getPlaintextKey crates (.unlocked database master) certId = .ok (keyDer, algorithm) ↔
      ∃ row, (database.keys.find? fun row => row.certId = certId) = some row ∧
        decryptKey crates row.keyEnc row.keySalt row.keyNonce master = .ok keyDer ∧
        parseAlgorithm row.algorithm = .ok algorithm := by
  rw [getPlaintextKey, Store.conn_unlocked, Outcome.ok_bind]
  cases database.keys.find? fun row => row.certId = certId with
  | none => simp
  | some row =>
      simp only [Outcome.ofOption_some, Outcome.ok_bind, Store.passphrase_unlocked,
        Outcome.bind_eq_ok_iff, Outcome.pure_eq_ok, Outcome.ok.injEq, Prod.mk.injEq,
        Option.some.injEq, exists_eq_left']
      constructor
      · rintro ⟨_, hkey, _, halgorithm, rfl, rfl⟩
        exact ⟨hkey, halgorithm⟩
      · rintro ⟨hkey, halgorithm⟩
        exact ⟨keyDer, hkey, algorithm, halgorithm, rfl, rfl⟩

/-- Only the table of keys is read. -/
theorem getPlaintextKey_congr {other : Database} {certId : String}
    (h : (other.keys.find? fun row => row.certId = certId) =
      database.keys.find? fun row => row.certId = certId) :
    getPlaintextKey crates (.unlocked other master) certId =
      getPlaintextKey crates (.unlocked database master) certId := by
  simp only [getPlaintextKey, Store.conn_unlocked, Store.passphrase_unlocked, Outcome.ok_bind, h]

theorem custody_congr {other : Database} (hcerts : other.certs = database.certs)
    (hkeys : other.keys = database.keys) (hcustody : Custody crates master imported database) :
    Custody crates master imported other where
  oneKeyEach := by
    rw [OneKeyEach, hcerts, hkeys]
    exact hcustody.oneKeyEach
  owned := by
    rw [hcerts, hkeys]
    exact hcustody.owned
  held entry hentry := by
    apply (getPlaintextKey_congr _).trans (hcustody.held entry hentry)
    rw [hkeys]

/-- A certificate that is not in the store has no key in it. -/
theorem keys_of_absent (hcustody : Custody crates master imported database) {id : String}
    (habsent : ∀ cert ∈ database.certs, cert.id ≠ id) :
    ∀ key ∈ database.keys, key.certId ≠ id := by
  intro key hkey hid
  obtain ⟨cert, hcert, howner⟩ := hcustody.owned key hkey
  exact habsent cert hcert (howner.trans hid)

def withPair (cert : Cert) (key : KeyRow) (database : Database) : Database :=
  { database with
    certs := database.certs ++ [cert]
    keys := database.keys ++ [key] }

theorem custody_withPair (hcustody : Custody crates master imported database) {cert : Cert}
    {key : KeyRow} (habsent : ∀ other ∈ database.certs, other.id ≠ cert.id)
    (hkey : key.certId = cert.id) :
    Custody crates master imported (withPair cert key database) where
  oneKeyEach := by
    intro other hother
    have hnone := keys_of_absent hcustody habsent
    rcases List.mem_append.mp hother with hold | hnew
    · obtain ⟨only, honly⟩ := hcustody.oneKeyEach other hold
      refine ⟨only, ?_⟩
      have hapart : ¬ key.certId = other.id := by
        rw [hkey]
        exact Ne.symm (habsent other hold)
      simp [withPair, List.filter_append, honly, hapart]
    · obtain rfl := List.mem_singleton.mp hnew
      refine ⟨key, ?_⟩
      have hempty : (database.keys.filter fun row => row.certId = other.id) = [] := by
        simpa using hnone
      simp [withPair, List.filter_append, hempty, hkey]
  owned := by
    intro other hother
    rcases List.mem_append.mp hother with hold | hnew
    · obtain ⟨owner, howner, hid⟩ := hcustody.owned other hold
      exact ⟨owner, List.mem_append_left _ howner, hid⟩
    · obtain rfl := List.mem_singleton.mp hnew
      exact ⟨cert, by simp [withPair], hkey.symm⟩
  held entry hentry := by
    have hheld := hcustody.held entry hentry
    obtain ⟨row, hfound, -, -⟩ := getPlaintextKey_eq_ok_iff.mp hheld
    rw [getPlaintextKey_congr, hheld]
    rw [withPair, List.find?_append, hfound, Option.some_or]

theorem custody_withoutCert (hcustody : Custody crates master imported database) (id : String) :
    Custody crates master (imported.filter fun entry => entry.certId ≠ id)
      (withoutCert id database) where
  oneKeyEach := by
    intro cert hcert
    simp only [withoutCert, List.mem_filter, decide_eq_true_eq] at hcert
    obtain ⟨only, honly⟩ := hcustody.oneKeyEach cert hcert.1
    refine ⟨only, ?_⟩
    rw [← honly, withoutCert, List.filter_filter]
    apply List.filter_congr
    intro key _
    by_cases hkey : key.certId = cert.id
    · simp [hkey, hcert.2]
    · simp [hkey]
  owned := by
    intro key hkey
    simp only [withoutCert, List.mem_filter, decide_eq_true_eq] at hkey
    obtain ⟨cert, hcert, hid⟩ := hcustody.owned key hkey.1
    refine ⟨cert, ?_, hid⟩
    simp only [withoutCert, List.mem_filter, decide_eq_true_eq]
    exact ⟨hcert, fun h => hkey.2 (hid.symm.trans h)⟩
  held entry hentry := by
    simp only [List.mem_filter, decide_eq_true_eq] at hentry
    rw [getPlaintextKey_congr, hcustody.held entry hentry.1]
    rw [withoutCert, List.find?_filter]
    congr 1
    funext key
    by_cases hkey : key.certId = entry.certId
    · simp [hkey, hentry.2]
    · simp [hkey]

end Rows

section Statements

variable (crates : Crates) (master : Bytes) (imported : List Imported)

def Kept (session : Session) : Prop := Custody crates master imported session.database

variable {crates master imported}

theorem preserves_newId (host : Host) :
    Effect.Preserves (newId host) (Kept crates master imported) := by
  intro session id session' hkept hcall
  obtain ⟨-, rfl⟩ := Prod.mk.inj hcall
  exact hkept

/-- The table is neither that of the certificates nor that of the keys. -/
def Beside {ρ : Type} (table : Table ρ) : Prop :=
  ∀ database found, (table.withRows database found).certs = database.certs ∧
    (table.withRows database found).keys = database.keys

theorem kept_append {ρ : Type} {table : Table ρ} (hbeside : Beside table) {session : Session}
    (hkept : Kept crates master imported session) (row : ρ) :
    Kept crates master imported (table.append row session) := by
  obtain ⟨hcerts, hkeys⟩ := hbeside session.database (table.rows session.database ++ [row])
  exact custody_congr hcerts hkeys hkept

theorem preserves_insert {ρ : Type} {table : Table ρ} (hbeside : Beside table) (row : ρ) :
    Effect.Preserves (table.insert row) (Kept crates master imported) :=
  Table.preserves_insert fun _ hkept => kept_append hbeside hkept row

theorem preserves_insertOrIgnore {ρ : Type} {table : Table ρ} (hbeside : Beside table)
    (row : ρ) : Effect.Preserves (table.insertOrIgnore row) (Kept crates master imported) :=
  Table.preserves_insertOrIgnore fun _ hkept => kept_append hbeside hkept row

theorem beside_caCerts : Beside caCerts := fun _ _ => ⟨rfl, rfl⟩

theorem beside_sshKeys : Beside sshKeys := fun _ _ => ⟨rfl, rfl⟩

theorem beside_apps : Beside apps := fun _ _ => ⟨rfl, rfl⟩

theorem beside_routes : Beside routes := fun _ _ => ⟨rfl, rfl⟩

theorem beside_sshRoutes : Beside sshRoutes := fun _ _ => ⟨rfl, rfl⟩

theorem beside_auditLog : Beside auditLog := fun _ _ => ⟨rfl, rfl⟩

/-- Only both inserts together leave custody as it was. -/
theorem of_insert_pair {cert : Cert} {key : KeyRow} {session middle session' : Session}
    {first second : Unit} {drawn : Nat} (hkept : Kept crates master imported session)
    (hkey : key.certId = cert.id) (hcert : certs.insert cert session = (.ok first, middle))
    (hpair : keys.insert key { middle with drawn := drawn } = (.ok second, session')) :
    session'.database = withPair cert key session.database ∧
      (∀ other ∈ session.database.certs, other.id ≠ cert.id) ∧
        Kept crates master imported session' := by
  obtain ⟨hunique, -, rfl⟩ := certs.insert_eq_ok_iff.mp hcert
  obtain ⟨-, -, hsession⟩ := keys.insert_eq_ok_iff.mp hpair
  have hdatabase : session'.database = withPair cert key session.database := by
    rw [hsession]
    rfl
  have habsent : ∀ other ∈ session.database.certs, other.id ≠ cert.id := by
    have hid := (Table.conflict_eq_none_iff certs).mp hunique ("id", (·.id)) (by simp [certs])
    simpa [certs] using hid
  refine ⟨hdatabase, habsent, ?_⟩
  rw [Kept, hdatabase]
  exact custody_withPair hkept habsent hkey

end Statements

section Restoring

variable {crates : Crates} {master : Bytes} {imported : List Imported}

theorem preserves_insertCertAndKey (host : Host) (entry : BackupCert) :
    Effect.Preserves (insertCertAndKey host entry) (Kept crates master imported) := by
  intro session result session' hkept hcall
  rw [insertCertAndKey] at hcall
  obtain ⟨certDer, -, hcall⟩ := Effect.lift_bind_eq_ok_iff.mp hcall
  obtain ⟨_, middle, hcert, hcall⟩ := Effect.bind_eq_ok_iff.mp hcall
  obtain ⟨id, _, hid, hkey⟩ := Effect.bind_eq_ok_iff.mp hcall
  obtain ⟨-, rfl⟩ := Prod.mk.inj hid
  exact (of_insert_pair hkept rfl hcert hkey).2.2

theorem preserves_restorePayload (host : Host) (payload : BackupPayload) :
    Effect.Preserves (restorePayload host payload) (Kept crates master imported) := by
  rw [restorePayload]
  apply (preserves_loadAll (fun entry =>
    preserves_unlessExists _ (preserves_insert beside_caCerts (caCertRow entry))) _).bind
  intro caCertCount
  apply (preserves_loadAll (fun entry =>
    preserves_unlessExists _ (preserves_insertCertAndKey host entry)) _).bind
  intro certCount
  apply (preserves_loadAll (fun entry =>
    preserves_unlessExists _ (preserves_insert beside_sshKeys (sshKeyRow entry))) _).bind
  intro sshKeyCount
  apply (preserves_loadAll (fun entry =>
    preserves_unlessExists _ (preserves_insert beside_apps (appRow entry))) _).bind
  intro appCount
  apply (preserves_loadAll (fun entry =>
    (preserves_insertOrIgnore beside_routes (routeRow entry)).bind fun _ =>
      Effect.preserves_of_unchanged fun _ => rfl) _).bind
  intro routeCount
  apply (preserves_loadAll (fun entry =>
    (preserves_insertOrIgnore beside_sshRoutes (sshRouteRow entry)).bind fun _ =>
      Effect.preserves_of_unchanged fun _ => rfl) _).bind
  intro sshRouteCount
  apply (preserves_newId host).bind
  intro id
  apply (preserves_insert beside_auditLog _).bind
  intro _
  exact Effect.preserves_of_unchanged fun _ => rfl

end Restoring

section Commands

variable {crates : Crates} {master : Bytes} {imported : List Imported}

/-- A key that has been encrypted under the master passphrase can be read back. -/
theorem decryptKey_of_encryptKey (hcrates : Deciphers crates) {drawn : KeyRandomness}
    {keyDer : Bytes} {encrypted : Bytes × Bytes × Bytes}
    (h : encryptKey crates drawn.salt drawn.nonce keyDer master = .ok encrypted) :
    decryptKey crates encrypted.1 encrypted.2.1 encrypted.2.2 master = .ok keyDer := by
  rw [encryptKey] at h
  obtain ⟨derived, hderived, h⟩ := Outcome.bind_eq_ok_iff.mp h
  obtain ⟨ciphertext, hcipher, h⟩ := Outcome.bind_eq_ok_iff.mp h
  obtain rfl := Outcome.ok.inj h
  rw [Outcome.mapErr_eq_ok_iff] at hcipher
  have hencrypted : crates.aesGcmEncrypt derived drawn.nonce keyDer = .ok ciphertext := by
    cases hresult : crates.aesGcmEncrypt derived drawn.nonce keyDer with
    | ok found =>
        rw [hresult] at hcipher
        rw [Outcome.ok.inj hcipher]
    | error error =>
        rw [hresult] at hcipher
        cases hcipher
  rw [decryptKey, hderived, Outcome.ok_bind, if_pos drawn.nonce_length,
    hcrates _ _ _ _ hencrypted]
  rfl

theorem of_insertImported (hcrates : Deciphers crates) {host : Host} {drawn : KeyRandomness}
    {certDer keyDer : Bytes} {label : String} {metadata : CertMeta} {algorithm : KeyAlgorithm}
    {encrypted : Bytes × Bytes × Bytes} {session session' : Session} {result : ImportResult}
    (hencrypted : encryptKey crates drawn.salt drawn.nonce keyDer master = .ok encrypted)
    (hkept : Kept crates master imported session)
    (hcall : insertImported host certDer label metadata algorithm encrypted session =
      (.ok result, session')) :
    Kept crates master
      ({ certId := result.certId, keyDer := keyDer, algorithm := algorithm } :: imported)
      session' := by
  rw [insertImported] at hcall
  obtain ⟨certId, _, hdrawn, hcall⟩ := Effect.bind_eq_ok_iff.mp hcall
  obtain ⟨-, rfl⟩ := Prod.mk.inj hdrawn
  obtain ⟨keyId, _, hdrawn, hcall⟩ := Effect.bind_eq_ok_iff.mp hcall
  obtain ⟨-, rfl⟩ := Prod.mk.inj hdrawn
  obtain ⟨_, middle, hcert, hcall⟩ := Effect.bind_eq_ok_iff.mp hcall
  obtain ⟨_, stored, hkey, hcall⟩ := Effect.bind_eq_ok_iff.mp hcall
  obtain ⟨auditId, _, hdrawn, hcall⟩ := Effect.bind_eq_ok_iff.mp hcall
  obtain ⟨-, rfl⟩ := Prod.mk.inj hdrawn
  obtain ⟨_, last, haudit, hcall⟩ := Effect.bind_eq_ok_iff.mp hcall
  obtain ⟨hresult, rfl⟩ := Prod.mk.inj hcall
  obtain rfl := Outcome.ok.inj hresult
  have hready : Kept crates master imported { session with drawn := session.drawn + 1 + 1 } :=
    hkept
  obtain ⟨hdatabase, habsent, hstored⟩ := of_insert_pair hready rfl hcert hkey
  have hnew : getPlaintextKey crates (.unlocked stored.database master) certId =
      .ok (keyDer, algorithm) := by
    rw [getPlaintextKey_eq_ok_iff]
    refine ⟨importedKey keyId certId algorithm encrypted, ?_,
      decryptKey_of_encryptKey hcrates hencrypted, parseAlgorithm_algorithmName algorithm⟩
    -- The certificate is new, so no earlier row of keys is for it.
    have hnone : (session.database.keys.find? fun row => row.certId = certId) = none := by
      rw [List.find?_eq_none]
      intro row hrow
      have hother : row.certId ≠ certId := keys_of_absent hkept habsent row hrow
      simpa using hother
    rw [hdatabase, withPair, List.find?_append, hnone]
    simp [importedKey]
  have hextended : Kept crates master
      ({ certId := certId, keyDer := keyDer, algorithm := algorithm } :: imported)
      { stored with drawn := stored.drawn + 1 } :=
    { oneKeyEach := hstored.oneKeyEach
      owned := hstored.owned
      held := by
        intro entry hentry
        rcases List.mem_cons.mp hentry with rfl | hold
        · exact hnew
        · exact hstored.held entry hold }
  exact preserves_insert beside_auditLog _ _ _ _ hextended haudit

theorem of_deleteRecorded {host : Host} {certId label : String} {session session' : Session}
    {result : Unit} (hkept : Kept crates master imported session)
    (hcall : deleteRecorded host certId label session = (.ok result, session')) :
    Kept crates master (imported.filter fun entry => entry.certId ≠ certId) session' := by
  rw [deleteRecorded] at hcall
  obtain ⟨_, middle, hdeleted, hcall⟩ := Effect.bind_eq_ok_iff.mp hcall
  obtain ⟨-, rfl⟩ := Prod.mk.inj hdeleted
  obtain ⟨id, _, hdrawn, haudit⟩ := Effect.bind_eq_ok_iff.mp hcall
  obtain ⟨-, rfl⟩ := Prod.mk.inj hdrawn
  have hremaining : Kept crates master (imported.filter fun entry => entry.certId ≠ certId)
      { database := withoutCert certId session.database, drawn := session.drawn + 1 } :=
    custody_withoutCert hkept certId
  exact preserves_insert beside_auditLog _ _ _ _ hremaining haudit

theorem preserves_insertApp (host : Host) (label exe hash : String) :
    Effect.Preserves (insertApp host label exe hash) (Kept crates master imported) := by
  apply (preserves_newId host).bind
  intro id
  exact preserves_insert beside_apps _

theorem preserves_insertRoute (host : Host) (certId : String) (appId : Option String)
    (request : RouteRequest) :
    Effect.Preserves (insertRoute host certId appId request) (Kept crates master imported) := by
  apply (preserves_newId host).bind
  intro id
  apply (preserves_insert beside_routes _).bind
  intro _
  exact Effect.preserves_of_unchanged fun _ => rfl

theorem preserves_deleteFromRoutes (id : String) :
    Effect.Preserves (deleteFromRoutes id) (Kept crates master imported) := by
  intro session result session' hkept hcall
  obtain ⟨-, rfl⟩ := Prod.mk.inj hcall
  obtain ⟨hcerts, hkeys⟩ := beside_routes session.database _
  exact custody_congr hcerts hkeys hkept

end Commands

end TrafficCone.KeyCustody
